import Timelocked.ProtectedStream

/-!
The stream as its format describes it: complete frames with every field they
store, numbered from zero, the last one and no other terminal. Lengths are
natural numbers here, so a length sum that wrapped around would show.
-/
namespace StreamGrammar
open ByteCodec RunRules Base ChunkFrame ProtectedStream

structure Frame where
  chunkIndex : UInt64
  isLast : UInt8
  plaintextLen : UInt32
  ciphertextLen : UInt32
  nonce : Block 24
  ciphertext : Bytes

def Frame.bytes (frame : Frame) : Bytes :=
  leBytes frame.chunkIndex ++ (leBytes frame.isLast ++ (leBytes frame.plaintextLen ++
    (leBytes frame.ciphertextLen ++ (frame.nonce.1 ++ frame.ciphertext))))

/-- The part of a frame that its position and its length do not give. -/
def Frame.stored (frame : Frame) : StoredFrame :=
  ⟨frame.isLast, frame.plaintextLen, frame.nonce, frame.ciphertext⟩

def Frame.at (position : Nat) (stored : StoredFrame) : Frame :=
  ⟨UInt64.ofNat position, stored.terminal, stored.plaintextLen,
    UInt32.ofNat stored.ciphertext.length, stored.nonce, stored.ciphertext⟩

structure FrameAt (chunkSize : UInt32) (count position : Nat) (frame : Frame) : Prop where
  numbered : frame.chunkIndex.toNat = position
  terminal : frame.isLast ≠ 0 ↔ position + 1 = count
  spoken : position + 1 ≠ count → 1 ≤ frame.plaintextLen.toNat
  bounded : frame.plaintextLen.toNat ≤ chunkSize.toNat
  tagged : frame.ciphertextLen.toNat = frame.plaintextLen.toNat + 16
  present : frame.ciphertext.length = frame.ciphertextLen.toNat

def FramesFrom (chunkSize : UInt32) (count first : Nat) (frames : List Frame) : Prop :=
  ∀ offset frame, frames[offset]? = some frame → FrameAt chunkSize count (first + offset) frame

structure Grammar (chunkSize : UInt32) (frames : List Frame) : Prop where
  nonempty : 1 ≤ frames.length
  framed : FramesFrom chunkSize frames.length 0 frames

def plaintextSum (frames : List Frame) : Nat :=
  (frames.map fun frame => frame.plaintextLen.toNat).sum

theorem framesFrom_nil (chunkSize : UInt32) (count first : Nat) :
    FramesFrom chunkSize count first [] := by
  intro offset frame member
  simp at member

theorem framesFrom_cons (chunkSize : UInt32) (count first : Nat) (frame : Frame)
    (rest : List Frame) :
    FramesFrom chunkSize count first (frame :: rest) ↔
      FrameAt chunkSize count first frame ∧ FramesFrom chunkSize count (first + 1) rest := by
  constructor
  · intro all
    refine ⟨all 0 frame rfl, fun offset other member => ?_⟩
    rw [Nat.add_assoc, Nat.add_comm 1 offset]
    exact all (offset + 1) other (by simpa using member)
  · rintro ⟨head, tail⟩ offset other member
    cases offset with
    | zero =>
        obtain rfl : frame = other := by simpa using member
        exact head
    | succ offset =>
        have later := tail offset other (by simpa using member)
        rwa [Nat.add_assoc, Nat.add_comm 1 offset] at later

/-- A frame of the grammar is one the loops accept, and spelled as they read it. -/
theorem frameAt_acceptable (chunkSize : UInt32) (count position : Nat) (frame : Frame)
    (here : FrameAt chunkSize count position frame) :
    Acceptable chunkSize position frame.stored ∧
      frame.bytes = frame.stored.bytes (UInt64.ofNat position) := by
  have length : UInt32.ofNat frame.ciphertext.length = frame.ciphertextLen := by
    rw [here.present]
    exact UInt32.ofNat_toNat
  have number : UInt64.ofNat position = frame.chunkIndex := by
    rw [← here.numbered]
    exact UInt64.ofNat_toNat
  refine ⟨⟨?_, ?_, ?_, ?_, ?_⟩, ?_⟩
  · rw [← here.numbered]
    exact frame.chunkIndex.toNat_lt
  · exact UInt32.le_iff_toNat_le.mpr here.bounded
  · exact here.present.trans here.tagged
  · exact here.present ▸ frame.ciphertextLen.toNat_lt
  · -- An open frame is not the last, and only the last may be empty.
    intro open_ empty
    have notLast : position + 1 ≠ count := fun last => here.terminal.mpr last open_
    have some_ := here.spoken notLast
    have none_ : frame.plaintextLen.toNat = 0 := congrArg UInt32.toNat empty
    omega
  · rw [StoredFrame.bytes, number]
    simp only [Frame.bytes, Frame.stored, length]

theorem acceptable_frameAt (chunkSize : UInt32) (count position : Nat) (stored : StoredFrame)
    (accepted : Acceptable chunkSize position stored)
    (terminal : stored.terminal ≠ 0 ↔ position + 1 = count) :
    FrameAt chunkSize count position (Frame.at position stored) := by
  have length := toNat_ofNat_length stored.ciphertext accepted.sized
  refine ⟨?_, terminal, ?_, UInt32.le_iff_toNat_le.mp accepted.bounded, ?_, length.symm⟩
  · exact (UInt64.toNat_ofNat' (n := position)).trans (Nat.mod_eq_of_lt accepted.indexed)
  · intro notLast
    have open_ : stored.terminal = 0 := not_not.mp fun flagged => notLast (terminal.mp flagged)
    apply Nat.one_le_iff_ne_zero.mpr
    intro empty
    exact accepted.spoken open_ (UInt32.toNat_inj.mp empty)
  · exact length.trans accepted.tagged

/-- Counted frames are a stream. -/
theorem framesFrom_stream (chunkSize : UInt32) (first : Nat) (frames : List Frame)
    (nonempty : frames ≠ [])
    (framed : FramesFrom chunkSize (first + frames.length) first frames) :
    Stream chunkSize first (frames.map Frame.stored) ∧
      streamBytes first (frames.map Frame.stored) = frames.flatMap Frame.bytes := by
  induction frames generalizing first with
  | nil => exact absurd rfl nonempty
  | cons frame rest ih =>
      obtain ⟨head, tail⟩ := (framesFrom_cons _ _ _ _ _).mp framed
      obtain ⟨accepted, spelled⟩ := frameAt_acceptable _ _ _ _ head
      cases rest with
      | nil =>
          have terminal := head.terminal.mpr rfl
          refine ⟨.last accepted terminal, ?_⟩
          simp [streamBytes, spelled]
      | cons second others =>
          have open_ : frame.isLast = 0 := by
            by_contra flagged
            have last := head.terminal.mp flagged
            simp only [List.length_cons] at last
            omega
          have count : first + (frame :: second :: others).length =
              first + 1 + (second :: others).length := by
            simp only [List.length_cons]
            omega
          rw [count] at tail
          obtain ⟨stream, bytes⟩ := ih (first + 1) (by simp) tail
          refine ⟨.more accepted open_ stream, ?_⟩
          rw [List.map_cons, streamBytes, bytes, ← spelled, ← List.flatMap_cons]

/-- A stream is made of counted frames. -/
theorem stream_framesFrom (chunkSize : UInt32) (first : Nat) (stored : List StoredFrame)
    (stream : Stream chunkSize first stored) :
    ∃ frames : List Frame, frames ≠ [] ∧ frames.map Frame.stored = stored ∧
      FramesFrom chunkSize (first + frames.length) first frames ∧
      streamBytes first stored = frames.flatMap Frame.bytes := by
  induction stream with
  | @last index frame accepted terminal =>
      have here := acceptable_frameAt chunkSize (index + 1) index frame accepted
        ⟨fun _ => rfl, fun _ => terminal⟩
      refine ⟨[Frame.at index frame], by simp, rfl, ?_, ?_⟩
      · exact (framesFrom_cons _ _ _ _ _).mpr ⟨here, framesFrom_nil _ _ _⟩
      · simp [streamBytes, Frame.bytes, Frame.at, StoredFrame.bytes]
  | @more index frame rest accepted open_ _ ih =>
      obtain ⟨frames, nonempty, rfl, framed, bytes⟩ := ih
      have some_ : 0 < frames.length := List.length_pos_iff.mpr nonempty
      have here := acceptable_frameAt chunkSize (index + (frames.length + 1)) index frame accepted
        ⟨fun flagged => absurd open_ flagged, fun last => by omega⟩
      refine ⟨Frame.at index frame :: frames, by simp, rfl, ?_, ?_⟩
      · rw [List.length_cons]
        refine (framesFrom_cons _ _ _ _ _).mpr ⟨here, ?_⟩
        rwa [Nat.add_comm frames.length 1, ← Nat.add_assoc]
      · rw [streamBytes, bytes, List.flatMap_cons]
        rfl

/-- The scan accepts the frames of the grammar, and counts them and their
plaintext; it accepts no other bytes. -/
theorem scan_accepts_grammar (bytes : Bytes) (chunkSize : UInt32) (stats : ChunkDecryptionStats) :
    scanProtectedStreamStructural bytes chunkSize = .ok stats ↔
      ∃ frames, Grammar chunkSize frames ∧ bytes = frames.flatMap Frame.bytes ∧
        stats = ⟨frames.length, plaintextSum frames⟩ := by
  rw [scanProtectedStreamStructural_ok]
  have total : ∀ frames : List Frame,
      plaintextTotal (frames.map Frame.stored) = plaintextSum frames := by
    intro frames
    rw [plaintextTotal, plaintextSum, List.map_map]
    rfl
  constructor
  · rintro ⟨stored, stream, rfl, rfl⟩
    obtain ⟨frames, nonempty, rfl, framed, spelled⟩ := stream_framesFrom chunkSize 0 stored stream
    refine ⟨frames, ⟨List.length_pos_iff.mpr nonempty, by simpa using framed⟩, spelled, ?_⟩
    rw [total, List.length_map]
  · rintro ⟨frames, grammar, rfl, rfl⟩
    obtain ⟨stream, spelled⟩ := framesFrom_stream chunkSize 0 frames
      (List.length_pos_iff.mp grammar.nonempty) (by simpa using grammar.framed)
    refine ⟨frames.map Frame.stored, stream, spelled.symm, ?_⟩
    rw [total, List.length_map]

end StreamGrammar
