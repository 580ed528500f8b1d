import Timelocked.ChunkFrame

/-!
The encrypted stream: chunks sealed one after the other, each bound to the
superblock, its index, its length and whether it is the last. `encryptLoop`
looks one read ahead to know the last chunk; `decryptLoop` and `scanLoop` read
frames until the terminal one. All three are related to one grammar, `Stream`.
-/
namespace ProtectedStream
open ByteCodec RunRules Base ChunkFrame FileTree

structure ChunkEncryptionStats where
  chunkCount : Nat
  plaintextBytes : Nat
  deriving DecidableEq, Repr

structure ChunkDecryptionStats where
  chunkCount : Nat
  plaintextBytes : Nat
  deriving DecidableEq, Repr

/-- What one `read` into a buffer of this size returns before the end of input. -/
def Piece (size : Nat) := {bytes : Bytes // bytes ≠ [] ∧ bytes.length ≤ size}

/-- The reads of a plaintext, in order; after the last comes the end of input. -/
abbrev PlaintextReader (size : Nat) := List (Except IoErrorKind (Piece size))

section Encrypt
variable (host : Host) (writer : Writer) (keyBytes superblockDigest : Block 32)
  (totalPlaintext : Nat) (onProgress : Bool) (cancellation : Option CancellationToken)

def sealChunk (index : Nat) (plaintext : Bytes) (isLast : Bool) : Op Unit := do
  let nonce ← fillBytes host 24
  match host.crates.encrypt keyBytes nonce (buildChunkAad superblockDigest (UInt64.ofNat index)
    (UInt32.ofNat plaintext.length) isLast) plaintext with
  | none => Run.fail (.crypto "chunk encryption failed")
  | some ciphertext =>
      emit (.sealed nonce (buildChunkAad superblockDigest (UInt64.ofNat index)
        (UInt32.ofNat plaintext.length) isLast) plaintext ciphertext)
      writeChunkFrame host writer
        ⟨UInt64.ofNat index, isLast, UInt32.ofNat plaintext.length,
          UInt32.ofNat ciphertext.length, nonce⟩ ciphertext

def encryptLoop {size : Nat} : PlaintextReader size → Piece size → Nat → Nat →
    Op ChunkEncryptionStats
  | [], current, index, written => do
      ensureNotCancelled cancellation
      sealChunk host writer keyBytes superblockDigest index current.1 true
      let written := written + current.1.length
      emitProgress onProgress "lock-encrypt" written totalPlaintext
      pure ⟨index + 1, written⟩
  | .error kind :: _, _, _, _ => do
      ensureNotCancelled cancellation
      Run.fail (.io kind)
  | .ok next :: rest, current, index, written => do
      ensureNotCancelled cancellation
      sealChunk host writer keyBytes superblockDigest index current.1 false
      let written := written + current.1.length
      emitProgress onProgress "lock-encrypt" written totalPlaintext
      encryptLoop rest next (index + 1) written

def encryptProtectedStreamWithCancel {chunkSize : Nat} (reader : PlaintextReader chunkSize) :
    Op ChunkEncryptionStats := do
  Run.lift (rejectIf (chunkSize = 0)
    (.invalidArgument "chunk_size must be greater than 0"))
  ensureNotCancelled cancellation
  match reader with
  | [] =>
      sealChunk host writer keyBytes superblockDigest 0 [] true
      emitProgress onProgress "lock-encrypt" 0 totalPlaintext
      pure ⟨1, 0⟩
  | .error kind :: _ => Run.fail (.io kind)
  | .ok current :: rest =>
      encryptLoop host writer keyBytes superblockDigest totalPlaintext onProgress cancellation
        rest current 0 0

def encryptProtectedStream {chunkSize : Nat} (reader : PlaintextReader chunkSize) :
    Op ChunkEncryptionStats :=
  encryptProtectedStreamWithCancel host writer keyBytes superblockDigest totalPlaintext onProgress
    none reader

end Encrypt

def validateProtectedStreamFrame (frame : ChunkFrameHeader) (ciphertextLen : Nat)
    (chunkSize : UInt32) (expectedIndex : Nat) : Except Error Unit := do
  validateChunkFrame frame ciphertextLen chunkSize expectedIndex
  rejectIf (frame.isLast = false ∧ frame.plaintextLen = 0)
    (.invalidFormat "non-terminal chunks must carry plaintext bytes")

structure LoopEnd where
  expectedIndex : Nat
  plaintextBytes : Nat
  sawLast : Bool
  rest : Bytes

def finishLoop (stop : LoopEnd) : Except Error Unit := do
  rejectIf (stop.sawLast = false) (.invalidFormat "missing terminal chunk marker")
  let trailing ← readChunkFrame stop.rest
  rejectIf trailing.isSome
    (.invalidFormat "unexpected trailing chunk data after terminal chunk")

section Decrypt
variable (host : Host) (writer : Writer) (keyBytes superblockDigest : Block 32)
  (chunkSize : UInt32) (expectedPlaintext : Nat) (onProgress : Bool)
  (cancellation : Option CancellationToken)

def openChunk (frame : ChunkFrameHeader) (ciphertext : Bytes) : Except Error Bytes := do
  let aad := buildChunkAad superblockDigest frame.index frame.plaintextLen frame.isLast
  match host.crates.decrypt keyBytes frame.nonce aad ciphertext with
  | none =>
      .error (.crypto "payload authentication failed (file is corrupted or tampered)")
  | some plaintext =>
      let index := frame.index
      rejectIf (plaintext.length ≠ frame.plaintextLen.toNat)
        (.invalidFormat s!"chunk {index} plaintext length mismatch")
      pure plaintext

/-- `budget` bounds the number of rounds; a round consumes a frame, so the
length of the input is always enough. -/
def decryptLoop : Nat → Nat → Nat → Bytes → Op LoopEnd
  | 0, _, _, _ => Run.fail eof
  | budget + 1, expectedIndex, written, input => do
      ensureNotCancelled cancellation
      match ← Run.lift (readChunkFrame input) with
      | none =>
          if expectedIndex = 0 then Run.fail (.invalidFormat "missing chunk frames")
          else pure ⟨expectedIndex, written, false, []⟩
      | some (frame, ciphertext, rest) =>
          Run.lift (validateProtectedStreamFrame frame ciphertext.length chunkSize expectedIndex)
          let plaintext ← Run.lift (openChunk host keyBytes superblockDigest frame ciphertext)
          writeAll host writer plaintext
          let written := written + plaintext.length
          emitProgress onProgress "unlock-decrypt" written expectedPlaintext
          if frame.isLast then pure ⟨expectedIndex + 1, written, true, rest⟩
          else decryptLoop budget (expectedIndex + 1) written rest

def decryptProtectedStreamToWriterWithCancel (reader : Bytes) : Op ChunkDecryptionStats := do
  ensureNotCancelled cancellation
  let stop ← decryptLoop host writer keyBytes superblockDigest chunkSize expectedPlaintext
    onProgress cancellation (reader.length + 1) 0 0 reader
  Run.lift (finishLoop stop)
  let written := stop.plaintextBytes
  Run.lift (rejectIf (written ≠ expectedPlaintext)
    (.invalidFormat s!"plaintext size mismatch, expected {expectedPlaintext}, got {written}"))
  pure ⟨stop.expectedIndex, written⟩

def decryptProtectedStreamToWriter (reader : Bytes) : Op ChunkDecryptionStats :=
  decryptProtectedStreamToWriterWithCancel host writer keyBytes superblockDigest chunkSize
    expectedPlaintext onProgress none reader

end Decrypt

def scanLoop (chunkSize : UInt32) : Nat → Nat → Nat → Bytes → Except Error LoopEnd
  | 0, _, _, _ => .error eof
  | budget + 1, expectedIndex, plaintextBytes, input => do
      match ← readChunkFrame input with
      | none =>
          if expectedIndex = 0 then .error (.invalidFormat "missing chunk frames")
          else pure ⟨expectedIndex, plaintextBytes, false, []⟩
      | some (frame, ciphertext, rest) =>
          validateProtectedStreamFrame frame ciphertext.length chunkSize expectedIndex
          let plaintextBytes := plaintextBytes + frame.plaintextLen.toNat
          if frame.isLast then pure ⟨expectedIndex + 1, plaintextBytes, true, rest⟩
          else scanLoop chunkSize budget (expectedIndex + 1) plaintextBytes rest

def scanProtectedStreamStructural (reader : Bytes) (chunkSize : UInt32) :
    Except Error ChunkDecryptionStats := do
  let stop ← scanLoop chunkSize (reader.length + 1) 0 0 reader
  finishLoop stop
  pure ⟨stop.expectedIndex, stop.plaintextBytes⟩

/-- A frame that both loops accept at this index. -/
structure Acceptable (chunkSize : UInt32) (index : Nat) (frame : StoredFrame) : Prop where
  indexed : index < 2 ^ 64
  bounded : frame.plaintextLen ≤ chunkSize
  tagged : frame.ciphertext.length = frame.plaintextLen.toNat + 16
  sized : frame.ciphertext.length < 2 ^ 32
  spoken : frame.terminal = 0 → frame.plaintextLen ≠ 0

inductive Stream (chunkSize : UInt32) : Nat → List StoredFrame → Prop where
  | last {index frame} (acceptable : Acceptable chunkSize index frame)
      (terminal : frame.terminal ≠ 0) : Stream chunkSize index [frame]
  | more {index frame rest} (acceptable : Acceptable chunkSize index frame)
      (open_ : frame.terminal = 0) (later : Stream chunkSize (index + 1) rest) :
      Stream chunkSize index (frame :: rest)

def streamBytes : Nat → List StoredFrame → Bytes
  | _, [] => []
  | index, frame :: rest => frame.bytes (UInt64.ofNat index) ++ streamBytes (index + 1) rest

def plaintextTotal (frames : List StoredFrame) : Nat :=
  (frames.map fun frame => frame.plaintextLen.toNat).sum

theorem validateProtectedStreamFrame_ok (frame : ChunkFrameHeader) (ciphertextLen : Nat)
    (chunkSize : UInt32) (expectedIndex : Nat) :
    validateProtectedStreamFrame frame ciphertextLen chunkSize expectedIndex = .ok () ↔
      frame.index.toNat = expectedIndex ∧ frame.plaintextLen ≤ chunkSize ∧
        frame.ciphertextLen = frame.plaintextLen + aeadTagBytes ∧
        UInt32.ofNat ciphertextLen = frame.ciphertextLen ∧
        (frame.isLast = false → frame.plaintextLen ≠ 0) := by
  simp only [validateProtectedStreamFrame, validateChunkFrame, bind_eq_ok, rejectIf_eq_ok,
    exists_and_left, exists_const, ne_eq, not_not, not_and, gt_iff_lt, UInt32.not_lt, and_assoc]

/-- A wrapped length sum is caught by the reader's check that the tag fits. -/
theorem plaintextLen_add_tag (plaintextLen : UInt32) (length : Nat) (fits : length < 2 ^ 32)
    (tag : 16 ≤ length) (sum : UInt32.ofNat length = plaintextLen + aeadTagBytes) :
    length = plaintextLen.toNat + 16 := by
  have same := congrArg UInt32.toNat sum
  rw [UInt32.toNat_ofNat', Nat.mod_eq_of_lt fits, UInt32.toNat_add] at same
  have tagged : aeadTagBytes.toNat = 16 := rfl
  have small := plaintextLen.toNat_lt
  rw [tagged] at same
  omega

/-- The frames the loops accept are read and checked as one step. -/
theorem acceptable_iff (chunkSize : UInt32) (index : Nat) (input ciphertext rest : Bytes)
    (header : ChunkFrameHeader) :
    (readChunkFrame input = .ok (some (header, ciphertext, rest)) ∧
      validateProtectedStreamFrame header ciphertext.length chunkSize index = .ok ()) ↔
      ∃ frame, Acceptable chunkSize index frame ∧ header = frame.header (UInt64.ofNat index) ∧
        ciphertext = frame.ciphertext ∧
        input = frame.bytes (UInt64.ofNat index) ++ rest := by
  rw [readChunkFrame_eq_some, validateProtectedStreamFrame_ok]
  constructor
  · -- The header checks bound the fields of the frame that was read.
    rintro ⟨⟨frame, ⟨tag, fits⟩, same, rfl, rfl⟩, here, bounded, sum, _, spoken⟩
    have indexed : header.index = UInt64.ofNat index := by
      rw [← here]
      exact UInt64.ofNat_toNat.symm
    rw [same] at bounded sum spoken
    rw [indexed] at same
    refine ⟨frame, ⟨?_, bounded, plaintextLen_add_tag _ _ fits tag sum, fits, ?_⟩, same, rfl,
      by rw [indexed]⟩
    · rw [← here]
      exact header.index.toNat_lt
    · intro open_
      exact spoken (by simp [StoredFrame.header, open_])
  · -- A frame within the bounds passes the checks, none of its sums wrapping around.
    rintro ⟨frame, accepted, rfl, rfl, rfl⟩
    have tag := accepted.tagged
    have length := toNat_ofNat_length frame.ciphertext accepted.sized
    refine ⟨⟨frame, ⟨by omega, accepted.sized⟩, rfl, rfl, rfl⟩, ?_, accepted.bounded, ?_, rfl, ?_⟩
    · exact (UInt64.toNat_ofNat' (n := index)).trans (Nat.mod_eq_of_lt accepted.indexed)
    · apply UInt32.toNat_inj.mp
      have small : aeadTagBytes.toNat = 16 := rfl
      have sized := accepted.sized
      simp only [StoredFrame.header, length, UInt32.toNat_add, small]
      omega
    · intro open_
      exact accepted.spoken (by simpa [StoredFrame.header] using open_)

theorem finishLoop_ok (stop : LoopEnd) :
    finishLoop stop = .ok () ↔ stop.sawLast = true ∧ stop.rest = [] := by
  simp only [finishLoop, bind_eq_ok, rejectIf_eq_ok, Bool.not_eq_false, Bool.not_eq_true]
  constructor
  · rintro ⟨_, terminal, trailing, read, nothing⟩
    cases trailing with
    | none => exact ⟨terminal, (readChunkFrame_eq_none _).mp read⟩
    | some frame => cases nothing
  · rintro ⟨terminal, empty⟩
    exact ⟨(), terminal, none, (readChunkFrame_eq_none _).mpr empty, rfl⟩

theorem streamBytes_length (index : Nat) (frames : List StoredFrame) :
    frames.length ≤ (streamBytes index frames).length := by
  induction frames generalizing index with
  | nil => simp [streamBytes]
  | cons frame rest ih =>
      have head : 8 ≤ (frame.bytes (UInt64.ofNat index)).length := by
        simp only [StoredFrame.bytes, List.length_append, leBytes_length]
        exact Nat.le_add_right 8 _
      have tail := ih (index + 1)
      rw [streamBytes, List.length_append, List.length_cons]
      omega

theorem scanLoop_stream (chunkSize : UInt32) (index plaintextBytes budget : Nat)
    (frames : List StoredFrame) (rest : Bytes) (stream : Stream chunkSize index frames)
    (enough : frames.length ≤ budget) :
    scanLoop chunkSize budget index plaintextBytes (streamBytes index frames ++ rest) =
      .ok ⟨index + frames.length, plaintextBytes + plaintextTotal frames, true, rest⟩ := by
  -- Induction on the stream; each frame takes one round of the budget.
  induction stream generalizing plaintextBytes budget with
  | @last index frame acceptable terminal =>
      obtain ⟨budget, rfl⟩ := Nat.exists_eq_succ_of_ne_zero (n := budget) (by simp at enough; omega)
      obtain ⟨read, valid⟩ := (acceptable_iff chunkSize index _ _ rest _).mpr
        ⟨frame, acceptable, rfl, rfl, rfl⟩
      have flagged : (frame.header (UInt64.ofNat index)).isLast = true := by
        simpa [StoredFrame.header] using terminal
      have lengths : (frame.header (UInt64.ofNat index)).plaintextLen = frame.plaintextLen := rfl
      simp only [scanLoop, streamBytes, List.append_nil, read, valid, flagged, ok_bind, lengths,
        if_true, pure_eq_ok]
      simp [plaintextTotal]
  | @more index frame later acceptable open_ _ ih =>
      obtain ⟨budget, rfl⟩ := Nat.exists_eq_succ_of_ne_zero (n := budget) (by simp at enough; omega)
      obtain ⟨read, valid⟩ := (acceptable_iff chunkSize index _ _
        (streamBytes (index + 1) later ++ rest) _).mpr ⟨frame, acceptable, rfl, rfl, rfl⟩
      have flagged : (frame.header (UInt64.ofNat index)).isLast = false := by
        simpa [StoredFrame.header] using open_
      have tail := ih (plaintextBytes + frame.plaintextLen.toNat) budget (by simpa using enough)
      have lengths : (frame.header (UInt64.ofNat index)).plaintextLen = frame.plaintextLen := rfl
      simp only [scanLoop, streamBytes, List.append_assoc, read, valid, flagged, ok_bind, lengths,
        Bool.false_eq_true, if_false, tail]
      simp only [plaintextTotal, List.map_cons, List.sum_cons, List.length_cons, Except.ok.injEq,
        LoopEnd.mk.injEq, and_true]
      omega

theorem scanLoop_ok (chunkSize : UInt32) (budget index plaintextBytes : Nat) (input : Bytes)
    (stop : LoopEnd)
    (success : scanLoop chunkSize budget index plaintextBytes input = .ok stop)
    (terminal : stop.sawLast = true) :
    ∃ frames, Stream chunkSize index frames ∧ input = streamBytes index frames ++ stop.rest ∧
      stop.expectedIndex = index + frames.length ∧
      stop.plaintextBytes = plaintextBytes + plaintextTotal frames := by
  -- Induction on the budget; a loop that saw its last frame ended on it.
  induction budget generalizing index plaintextBytes input with
  | zero => cases success
  | succ budget ih =>
      rw [scanLoop, bind_eq_ok] at success
      obtain ⟨read, taken, continued⟩ := success
      cases read with
      | none =>
          dsimp only at continued
          split at continued
          · cases continued
          · cases continued
            cases terminal
      | some item =>
          obtain ⟨header, ciphertext, rest⟩ := item
          obtain ⟨_, valid, looped⟩ := (bind_eq_ok _ _ _).mp continued
          clear continued
          obtain ⟨frame, acceptable, rfl, rfl, rfl⟩ :=
            (acceptable_iff chunkSize index _ _ _ _).mp ⟨taken, valid⟩
          dsimp only at looped
          split at looped
          · rename_i flagged
            cases looped
            refine ⟨[frame], .last acceptable (by simpa [StoredFrame.header] using flagged), ?_, rfl,
              ?_⟩
            · simp [streamBytes]
            · simp [plaintextTotal, StoredFrame.header]
          · rename_i flagged
            obtain ⟨frames, later, split, count, total⟩ := ih _ _ _ looped
            refine ⟨frame :: frames,
              .more acceptable (by simpa [StoredFrame.header] using flagged) later, ?_, ?_, ?_⟩
            · rw [split, streamBytes, List.append_assoc]
            · rw [count, List.length_cons]
              omega
            · rw [total]
              simp only [plaintextTotal, StoredFrame.header, List.map_cons, List.sum_cons]
              omega

theorem scanProtectedStreamStructural_ok (reader : Bytes) (chunkSize : UInt32)
    (stats : ChunkDecryptionStats) :
    scanProtectedStreamStructural reader chunkSize = .ok stats ↔
      ∃ frames, Stream chunkSize 0 frames ∧ reader = streamBytes 0 frames ∧
        stats = ⟨frames.length, plaintextTotal frames⟩ := by
  unfold scanProtectedStreamStructural
  constructor
  · intro success
    obtain ⟨stop, scanned, success⟩ := (bind_eq_ok _ _ _).mp success
    obtain ⟨_, finished, success⟩ := (bind_eq_ok _ _ _).mp success
    obtain ⟨terminal, empty⟩ := (finishLoop_ok stop).mp finished
    obtain ⟨frames, stream, split, count, total⟩ := scanLoop_ok _ _ _ _ _ _ scanned terminal
    refine ⟨frames, stream, by simpa [empty] using split, ?_⟩
    cases success
    simp [count, total]
  · rintro ⟨frames, stream, rfl, rfl⟩
    have enough := streamBytes_length 0 frames
    have scanned := scanLoop_stream chunkSize 0 0 ((streamBytes 0 frames).length + 1) frames []
      stream (by omega)
    rw [List.append_nil] at scanned
    rw [scanned, ok_bind, (finishLoop_ok _).mpr ⟨rfl, rfl⟩]
    simp [pure_eq_ok]

section Open
variable (host : Host) (keyBytes superblockDigest : Block 32)

inductive Opened : Nat → List StoredFrame → List Bytes → Prop where
  | nil {index} : Opened index [] []
  | cons {index frame rest message messages}
      (opened : openChunk host keyBytes superblockDigest (frame.header (UInt64.ofNat index))
        frame.ciphertext = .ok message)
      (later : Opened (index + 1) rest messages) :
      Opened index (frame :: rest) (message :: messages)

theorem openChunk_ok (frame : ChunkFrameHeader) (ciphertext message : Bytes) :
    openChunk host keyBytes superblockDigest frame ciphertext = .ok message ↔
      host.crates.decrypt keyBytes frame.nonce
        (buildChunkAad superblockDigest frame.index frame.plaintextLen frame.isLast) ciphertext =
          some message ∧ message.length = frame.plaintextLen.toNat := by
  unfold openChunk
  dsimp only
  split
  · rename_i refused
    simp [refused]
  · rename_i plaintext opened
    simp only [bind_eq_ok, rejectIf_eq_ok, pure_eq_ok, opened, Except.ok.injEq, Option.some.injEq,
      not_not, ne_eq]
    constructor
    · rintro ⟨_, length, rfl⟩
      exact ⟨rfl, length⟩
    · rintro ⟨rfl, length⟩
      exact ⟨(), length, rfl⟩

/-- Only the cipher decides what opens. -/
theorem opened_crates (other : Host) (same : other.crates = host.crates) {index : Nat}
    {frames : List StoredFrame} {messages : List Bytes}
    (opened : Opened host keyBytes superblockDigest index frames messages) :
    Opened other keyBytes superblockDigest index frames messages := by
  induction opened with
  | nil => exact .nil
  | cons opened _ ih =>
      refine .cons ?_ ih
      rw [openChunk_ok] at opened ⊢
      rwa [same]

theorem opened_lengths {index : Nat} {frames : List StoredFrame} {messages : List Bytes}
    (opened : Opened host keyBytes superblockDigest index frames messages) :
    messages.flatten.length = plaintextTotal frames := by
  induction opened with
  | nil => rfl
  | cons opened _ ih =>
      have length := ((openChunk_ok _ _ _ _ _ _).mp opened).2
      simp only [List.flatten_cons, List.length_append, ih, plaintextTotal, List.map_cons,
        List.sum_cons, length]
      rfl

end Open

section Decrypt
variable (host : Host) (writer : Writer) (keyBytes superblockDigest : Block 32)
  (chunkSize : UInt32) (expectedPlaintext : Nat) (onProgress : Bool)
  (cancellation : Option CancellationToken)

theorem decryptLoop_ok (budget index written : Nat) (input : Bytes) (stop : LoopEnd)
    (before after : World)
    (success : decryptLoop host writer keyBytes superblockDigest chunkSize expectedPlaintext
      onProgress cancellation budget index written input before = (.ok stop, after))
    (terminal : stop.sawLast = true) :
    ∃ frames messages, Stream chunkSize index frames ∧
      Opened host keyBytes superblockDigest index frames messages ∧
      input = streamBytes index frames ++ stop.rest ∧
      stop.expectedIndex = index + frames.length ∧
      stop.plaintextBytes = written + plaintextTotal frames ∧
      Wrote messages.flatten before after := by
  -- As for the scan; the messages opened are collected along with the frames.
  induction budget generalizing index written input before with
  | zero => cases success
  | succ budget ih =>
      rw [decryptLoop, Run.bind_eq_ok] at success
      obtain ⟨_, w₁, polled, reading⟩ := success
      have quiet := ensureNotCancelled_quiet cancellation before
      rw [polled] at quiet
      obtain ⟨read, taken, continued⟩ := (Run.lift_bind_eq_ok _ _ _ _ _).mp reading
      clear reading
      cases read with
      | none =>
          dsimp only at continued
          split at continued
          · cases continued
          · cases continued
            cases terminal
      | some item =>
          obtain ⟨header, ciphertext, rest⟩ := item
          obtain ⟨_, valid, checked⟩ := (Run.lift_bind_eq_ok _ _ _ _ _).mp continued
          clear continued
          obtain ⟨frame, acceptable, rfl, rfl, rfl⟩ :=
            (acceptable_iff chunkSize index _ _ _ _).mp ⟨taken, valid⟩
          obtain ⟨message, opened, writing⟩ := (Run.lift_bind_eq_ok _ _ _ _ _).mp checked
          obtain ⟨_, w₂, appended, reporting⟩ := (Run.bind_eq_ok _ _ _ _ _).mp writing
          obtain ⟨w₃, reported, silent⟩ := emitProgress_ok onProgress "unlock-decrypt"
            (written + message.length) expectedPlaintext w₂
          rw [Run.bind_of_ok reported] at reporting
          -- A round polls, writes one message and reports; only the writing leaves a trace.
          have wrote : Wrote message before w₃ :=
            wrote_quiet (quiet_wrote quiet (writeAll_ok host writer _ _ _ appended)) silent
          have length := ((openChunk_ok _ _ _ _ _ _).mp opened).2
          clear checked writing
          split at reporting
          · rename_i flagged
            cases reporting
            refine ⟨[frame], [message], .last acceptable (by simpa [StoredFrame.header] using flagged),
              .cons opened .nil, by simp [streamBytes], rfl, ?_, by simpa using wrote⟩
            simp [plaintextTotal, length, StoredFrame.header]
          · rename_i flagged
            obtain ⟨frames, messages, later, laterOpened, split, count, total, laterWrote⟩ :=
              ih _ _ _ _ reporting
            refine ⟨frame :: frames, message :: messages,
              .more acceptable (by simpa [StoredFrame.header] using flagged) later,
              .cons opened laterOpened, ?_, ?_, ?_, wrote_wrote wrote laterWrote⟩
            · rw [split, streamBytes, List.append_assoc]
            · rw [count, List.length_cons]
              omega
            · rw [total, length]
              simp only [plaintextTotal, StoredFrame.header, List.map_cons, List.sum_cons]
              omega

theorem decryptLoop_stream (never : NeverCancelled cancellation) (takes : writer.Takes host)
    (index written budget : Nat) (frames : List StoredFrame) (messages : List Bytes) (rest : Bytes)
    (stream : Stream chunkSize index frames)
    (opened : Opened host keyBytes superblockDigest index frames messages)
    (enough : frames.length ≤ budget) (before : World) :
    ∃ after, decryptLoop host writer keyBytes superblockDigest chunkSize expectedPlaintext
        onProgress cancellation budget index written (streamBytes index frames ++ rest) before =
          (.ok ⟨index + frames.length, written + plaintextTotal frames, true, rest⟩, after) ∧
      Wrote messages.flatten before after := by
  -- Induction on the stream: no round fails, so each leaves the loop to the next.
  induction stream generalizing written budget messages before with
  | @last index frame acceptable terminal =>
      obtain ⟨budget, rfl⟩ := Nat.exists_eq_succ_of_ne_zero (n := budget) (by simp at enough; omega)
      cases opened with
      | @cons _ _ _ message messages opened later =>
          cases later
          obtain ⟨read, valid⟩ := (acceptable_iff chunkSize index _ _ rest _).mpr
            ⟨frame, acceptable, rfl, rfl, rfl⟩
          have flagged : (frame.header (UInt64.ofNat index)).isLast = true := by
            simpa [StoredFrame.header] using terminal
          have length := ((openChunk_ok _ _ _ _ _ _).mp opened).2
          obtain ⟨w₁, polled, quiet⟩ := ensureNotCancelled_ok cancellation never before
          obtain ⟨w₂, appended, wrote⟩ := writeAll_takes host writer takes message w₁
          obtain ⟨w₃, reported, silent⟩ := emitProgress_ok onProgress "unlock-decrypt"
            (written + message.length) expectedPlaintext w₂
          refine ⟨w₃, ?_, by simpa using wrote_quiet (quiet_wrote quiet wrote) silent⟩
          rw [decryptLoop, Run.bind_of_ok polled, streamBytes, streamBytes, List.append_nil,
            Run.lift_bind_of_ok read]
          dsimp only
          rw [Run.lift_bind_of_ok valid, Run.lift_bind_of_ok opened, Run.bind_of_ok appended,
            Run.bind_of_ok reported, if_pos flagged]
          simp [plaintextTotal, length, StoredFrame.header]
  | @more index frame later acceptable open_ _ ih =>
      obtain ⟨budget, rfl⟩ := Nat.exists_eq_succ_of_ne_zero (n := budget) (by simp at enough; omega)
      cases opened with
      | @cons _ _ _ message messages opened laterOpened =>
          obtain ⟨read, valid⟩ := (acceptable_iff chunkSize index _ _
            (streamBytes (index + 1) later ++ rest) _).mpr ⟨frame, acceptable, rfl, rfl, rfl⟩
          have flagged : (frame.header (UInt64.ofNat index)).isLast ≠ true := by
            simpa [StoredFrame.header] using open_
          have length := ((openChunk_ok _ _ _ _ _ _).mp opened).2
          obtain ⟨w₁, polled, quiet⟩ := ensureNotCancelled_ok cancellation never before
          obtain ⟨w₂, appended, wrote⟩ := writeAll_takes host writer takes message w₁
          obtain ⟨w₃, reported, silent⟩ := emitProgress_ok onProgress "unlock-decrypt"
            (written + message.length) expectedPlaintext w₂
          obtain ⟨after, tail, laterWrote⟩ := ih (written + message.length) budget messages
            laterOpened (by simpa using enough) w₃
          refine ⟨after, ?_,
            wrote_wrote (wrote_quiet (quiet_wrote quiet wrote) silent) laterWrote⟩
          rw [decryptLoop, Run.bind_of_ok polled, streamBytes, List.append_assoc,
            Run.lift_bind_of_ok read]
          dsimp only
          rw [Run.lift_bind_of_ok valid, Run.lift_bind_of_ok opened, Run.bind_of_ok appended,
            Run.bind_of_ok reported, if_neg flagged, tail, length]
          simp only [plaintextTotal, StoredFrame.header, List.map_cons, List.sum_cons,
            List.length_cons, Prod.mk.injEq, Except.ok.injEq, LoopEnd.mk.injEq, and_true]
          omega

/-- A decryption that succeeds has read one stream, opened every frame of it
and written the messages in order. -/
theorem decryptProtectedStreamToWriterWithCancel_ok (reader : Bytes)
    (stats : ChunkDecryptionStats) (before after : World)
    (success : decryptProtectedStreamToWriterWithCancel host writer keyBytes superblockDigest
      chunkSize expectedPlaintext onProgress cancellation reader before = (.ok stats, after)) :
    ∃ frames messages, Stream chunkSize 0 frames ∧
      Opened host keyBytes superblockDigest 0 frames messages ∧
      reader = streamBytes 0 frames ∧ stats = ⟨frames.length, expectedPlaintext⟩ ∧
      plaintextTotal frames = expectedPlaintext ∧ Wrote messages.flatten before after := by
  unfold decryptProtectedStreamToWriterWithCancel at success
  obtain ⟨_, w₁, polled, looping⟩ := (Run.bind_eq_ok _ _ _ _ _).mp success
  have quiet := ensureNotCancelled_quiet cancellation before
  rw [polled] at quiet
  obtain ⟨stop, w₂, looped, finishing⟩ := (Run.bind_eq_ok _ _ _ _ _).mp looping
  obtain ⟨_, finished, sizing⟩ := (Run.lift_bind_eq_ok _ _ _ _ _).mp finishing
  obtain ⟨_, sized, returned⟩ := (Run.lift_bind_eq_ok _ _ _ _ _).mp sizing
  obtain ⟨terminal, empty⟩ := (finishLoop_ok stop).mp finished
  rw [rejectIf_eq_ok, not_not] at sized
  obtain ⟨frames, messages, stream, opened, split, count, total, wrote⟩ :=
    decryptLoop_ok host writer keyBytes superblockDigest chunkSize expectedPlaintext onProgress
      cancellation _ _ _ _ _ _ _ looped terminal
  cases returned
  refine ⟨frames, messages, stream, opened, by simpa [empty] using split, ?_, ?_,
    quiet_wrote quiet wrote⟩
  · simp [count, sized]
  · rw [← sized, total, Nat.zero_add]

theorem decryptProtectedStreamToWriterWithCancel_stream (never : NeverCancelled cancellation)
    (takes : writer.Takes host) (frames : List StoredFrame) (messages : List Bytes)
    (stream : Stream chunkSize 0 frames)
    (opened : Opened host keyBytes superblockDigest 0 frames messages)
    (whole : plaintextTotal frames = expectedPlaintext) (before : World) :
    ∃ after, decryptProtectedStreamToWriterWithCancel host writer keyBytes superblockDigest
        chunkSize expectedPlaintext onProgress cancellation (streamBytes 0 frames) before =
          (.ok ⟨frames.length, expectedPlaintext⟩, after) ∧
      Wrote messages.flatten before after := by
  obtain ⟨w₁, polled, quiet⟩ := ensureNotCancelled_ok cancellation never before
  have enough := streamBytes_length 0 frames
  obtain ⟨after, looped, wrote⟩ := decryptLoop_stream host writer keyBytes superblockDigest
    chunkSize expectedPlaintext onProgress cancellation never takes 0 0
    ((streamBytes 0 frames).length + 1) frames messages [] stream opened (by omega) w₁
  rw [List.append_nil] at looped
  refine ⟨after, ?_, quiet_wrote quiet wrote⟩
  unfold decryptProtectedStreamToWriterWithCancel
  rw [Run.bind_of_ok polled, Run.bind_of_ok looped,
    Run.lift_bind_of_ok ((finishLoop_ok _).mpr ⟨rfl, rfl⟩)]
  simp only [rejectIf, Nat.zero_add, whole, ne_eq, not_true_eq_false, if_false]
  rfl

end Decrypt

structure Chunk where
  nonce : Block 24
  message : Bytes
  ciphertext : Bytes

namespace Chunk

def frame (chunk : Chunk) (isLast : Bool) : StoredFrame :=
  ⟨flagByte isLast, UInt32.ofNat chunk.message.length, chunk.nonce, chunk.ciphertext⟩

def aad (chunk : Chunk) (superblockDigest : Block 32) (index : Nat) (isLast : Bool) : Bytes :=
  buildChunkAad superblockDigest (UInt64.ofNat index) (UInt32.ofNat chunk.message.length) isLast

def sealing (chunk : Chunk) (superblockDigest : Block 32) (index : Nat) (isLast : Bool) : Seal :=
  ⟨chunk.nonce, chunk.aad superblockDigest index isLast, chunk.message, chunk.ciphertext⟩

end Chunk

def chunkFrames : List Chunk → List StoredFrame
  | [] => []
  | [chunk] => [chunk.frame true]
  | chunk :: rest => chunk.frame false :: chunkFrames rest

def chunkSeals (superblockDigest : Block 32) : Nat → List Chunk → List Seal
  | _, [] => []
  | index, [chunk] => [chunk.sealing superblockDigest index true]
  | index, chunk :: rest =>
      chunk.sealing superblockDigest index false :: chunkSeals superblockDigest (index + 1) rest

section Encrypt
variable (host : Host) (writer : Writer) (keyBytes superblockDigest : Block 32)
  (totalPlaintext : Nat) (onProgress : Bool) (cancellation : Option CancellationToken)

/-- The cipher made this ciphertext, and its length fits the frame header. -/
def SealedBy (sealing : Seal) : Prop :=
  host.crates.encrypt keyBytes sealing.nonce sealing.aad sealing.message =
    some sealing.ciphertext ∧
    sealing.ciphertext.length < 2 ^ 32

structure Sealed (index : Nat) (chunks : List Chunk) (before after : World) : Prop where
  tree : after.tree = before.tree
  sink : after.sink = before.sink ++ streamBytes index (chunkFrames chunks)
  seals : after.seals = (chunkSeals superblockDigest index chunks).reverse ++ before.seals
  ciphered : ∀ sealing ∈ chunkSeals superblockDigest index chunks,
    SealedBy host keyBytes sealing

theorem sealChunk_ok (index : Nat) (plaintext : Bytes) (isLast : Bool) (before after : World)
    (success : sealChunk host writer keyBytes superblockDigest index plaintext isLast before =
      (.ok (), after)) :
    ∃ chunk : Chunk, chunk.message = plaintext ∧
      SealedBy host keyBytes (chunk.sealing superblockDigest index isLast) ∧
      after.tree = before.tree ∧
      after.sink = before.sink ++ (chunk.frame isLast).bytes (UInt64.ofNat index) ∧
      after.seals = chunk.sealing superblockDigest index isLast :: before.seals := by
  unfold sealChunk at success
  obtain ⟨nonce, w₁, drawn, ciphering⟩ := (Run.bind_eq_ok _ _ _ _ _).mp success
  have quiet := fillBytes_quiet host 24 before
  rw [drawn] at quiet
  cases ciphered : host.crates.encrypt keyBytes nonce (buildChunkAad superblockDigest
    (UInt64.ofNat index) (UInt32.ofNat plaintext.length) isLast) plaintext with
  | none =>
    rw [ciphered] at ciphering
    cases ciphering
  | some ciphertext =>
    rw [ciphered] at ciphering
    obtain ⟨_, w₂, emitted, writing⟩ := (Run.bind_eq_ok _ _ _ _ _).mp ciphering
    cases emitted
    obtain ⟨sized, wrote⟩ := writeChunkFrame_ok _ _ _ _ _ _ writing
    refine ⟨⟨nonce, plaintext, ciphertext⟩, rfl, ⟨ciphered, ?_⟩, ?_, ?_, ?_⟩
    · have small := (UInt32.ofNat ciphertext.length).toNat_lt
      simp only [Chunk.sealing]
      rw [← sized]
      exact small
    · exact wrote.tree.trans quiet.tree
    · exact wrote.sink.trans (congrArg (· ++ _) quiet.sink)
    · exact wrote.seals.trans (congrArg (List.cons _) quiet.seals)

/-- A last chunk sealed between steps that write nothing. -/
theorem sealed_last (index : Nat) (plaintext : Bytes) (before opened closed after : World)
    (quiet : Quiet before opened) (silent : Quiet closed after)
    (success : sealChunk host writer keyBytes superblockDigest index plaintext true opened =
      (.ok (), closed)) :
    ∃ chunk : Chunk, chunk.message = plaintext ∧
      Sealed host keyBytes superblockDigest index [chunk] before after := by
  obtain ⟨chunk, message, ciphered, tree, sink, seals⟩ := sealChunk_ok _ _ _ _ _ _ _ _ _ success
  refine ⟨chunk, message, ⟨?_, ?_, ?_, ?_⟩⟩
  · rw [silent.tree, tree, quiet.tree]
  · rw [silent.sink, sink, quiet.sink]
    simp [chunkFrames, streamBytes]
  · rw [silent.seals, seals, quiet.seals]
    simp [chunkSeals]
  · simpa [chunkSeals] using ciphered

def pieces {size : Nat} (reader : PlaintextReader size) : List Bytes :=
  reader.filterMap fun read => match read with
    | .ok piece => some piece.1
    | .error _ => none

theorem pieces_sized {size : Nat} (reader : PlaintextReader size) (message : Bytes)
    (member : message ∈ pieces reader) : message ≠ [] ∧ message.length ≤ size := by
  obtain ⟨read, _, found⟩ := List.mem_filterMap.mp member
  cases read with
  | error kind => cases found
  | ok piece =>
      cases found
      exact piece.2

theorem encryptLoop_ok {size : Nat} (reader : PlaintextReader size) (current : Piece size)
    (index written : Nat) (stats : ChunkEncryptionStats) (before after : World)
    (success : encryptLoop host writer keyBytes superblockDigest totalPlaintext onProgress
      cancellation reader current index written before = (.ok stats, after)) :
    ∃ chunks : List Chunk, chunks.map Chunk.message = current.1 :: pieces reader ∧
      Sealed host keyBytes superblockDigest index chunks before after ∧
      stats = ⟨index + chunks.length, written + (chunks.map Chunk.message).flatten.length⟩ := by
  -- Induction on the reads to come; `current` is sealed once the next read is known.
  induction reader generalizing current index written before with
  | nil =>
      obtain ⟨_, w₁, polled, sealing⟩ := (Run.bind_eq_ok _ _ _ _ _).mp success
      have quiet := ensureNotCancelled_quiet cancellation before
      rw [polled] at quiet
      obtain ⟨_, w₂, sealed, reporting⟩ := (Run.bind_eq_ok _ _ _ _ _).mp sealing
      obtain ⟨w₃, reported, silent⟩ := emitProgress_ok onProgress "lock-encrypt"
        (written + current.1.length) totalPlaintext w₂
      rw [Run.bind_of_ok reported] at reporting
      cases reporting
      obtain ⟨chunk, message, single⟩ := sealed_last _ _ _ _ _ _ _ _ _ _ quiet silent sealed
      exact ⟨[chunk], by simp [message, pieces], single, by simp [message]⟩
  | cons read rest ih =>
      cases read with
      | error kind =>
          obtain ⟨_, w₁, _, failed⟩ := (Run.bind_eq_ok _ _ _ _ _).mp success
          cases failed
      | ok next =>
          obtain ⟨_, w₁, polled, sealing⟩ := (Run.bind_eq_ok _ _ _ _ _).mp success
          have quiet := ensureNotCancelled_quiet cancellation before
          rw [polled] at quiet
          obtain ⟨_, w₂, sealed, reporting⟩ := (Run.bind_eq_ok _ _ _ _ _).mp sealing
          obtain ⟨chunk, message, ciphered, tree, sink, seals⟩ :=
            sealChunk_ok _ _ _ _ _ _ _ _ _ sealed
          obtain ⟨w₃, reported, silent⟩ := emitProgress_ok onProgress "lock-encrypt"
            (written + current.1.length) totalPlaintext w₂
          rw [Run.bind_of_ok reported] at reporting
          obtain ⟨chunks, messages, later, total⟩ := ih _ _ _ _ reporting
          -- The rest of the stream has a chunk, so this one is not flagged as the last.
          have more : chunks ≠ [] := by
            rintro rfl
            cases messages
          obtain ⟨second, others, rfl⟩ := List.exists_cons_of_ne_nil more
          refine ⟨chunk :: second :: others, ?_, ⟨?_, ?_, ?_, ?_⟩, ?_⟩
          · rw [List.map_cons, messages, message]
            rfl
          · rw [later.tree, silent.tree, tree, quiet.tree]
          · rw [later.sink, silent.sink, sink, quiet.sink]
            simp [chunkFrames, streamBytes]
          · rw [later.seals, silent.seals, seals, quiet.seals]
            simp [chunkSeals]
          · intro sealing member
            rcases List.mem_cons.mp member with head | tail
            · rw [head]
              exact ciphered
            · exact later.ciphered sealing tail
          · rw [total]
            simp only [List.map_cons, List.flatten_cons, List.length_append, List.length_cons,
              message, ChunkEncryptionStats.mk.injEq]
            omega

/-- The chunks a whole encryption seals: one per read, or one empty chunk. -/
theorem encryptProtectedStreamWithCancel_ok {chunkSize : Nat} (reader : PlaintextReader chunkSize)
    (stats : ChunkEncryptionStats) (before after : World)
    (success : encryptProtectedStreamWithCancel host writer keyBytes superblockDigest
      totalPlaintext onProgress cancellation reader before = (.ok stats, after)) :
    ∃ chunks : List Chunk, chunks ≠ [] ∧
      (chunks.map Chunk.message = pieces reader ∨
        (pieces reader = [] ∧ chunks.map Chunk.message = [[]])) ∧
      Sealed host keyBytes superblockDigest 0 chunks before after ∧
      stats = ⟨chunks.length, (pieces reader).flatten.length⟩ := by
  unfold encryptProtectedStreamWithCancel at success
  obtain ⟨_, _, polling⟩ := (Run.lift_bind_eq_ok _ _ _ _ _).mp success
  obtain ⟨_, w₁, polled, reading⟩ := (Run.bind_eq_ok _ _ _ _ _).mp polling
  have quiet := ensureNotCancelled_quiet cancellation before
  rw [polled] at quiet
  -- An empty input still makes one chunk.
  split at reading
  · obtain ⟨_, w₂, sealed, reporting⟩ := (Run.bind_eq_ok _ _ _ _ _).mp reading
    obtain ⟨w₃, reported, silent⟩ := emitProgress_ok onProgress "lock-encrypt" 0 totalPlaintext w₂
    rw [Run.bind_of_ok reported] at reporting
    cases reporting
    obtain ⟨chunk, message, single⟩ := sealed_last _ _ _ _ _ _ _ _ _ _ quiet silent sealed
    exact ⟨[chunk], by simp, .inr ⟨rfl, by simp [message]⟩, single, rfl⟩
  · cases reading
  · rename_i current rest
    obtain ⟨chunks, messages, sealed, total⟩ := encryptLoop_ok _ _ _ _ _ _ _ _ _ _ _ _ _ _ reading
    have more : chunks ≠ [] := by
      rintro rfl
      cases messages
    have read : pieces (.ok current :: rest) = current.1 :: pieces rest := rfl
    refine ⟨chunks, more, .inl (messages.trans read.symm), ⟨?_, ?_, ?_, sealed.ciphered⟩, ?_⟩
    · rw [sealed.tree, quiet.tree]
    · rw [sealed.sink, quiet.sink]
    · rw [sealed.seals, quiet.seals]
    · rw [total, read, messages, Nat.zero_add, Nat.zero_add]

/-- The frames of sealed chunks form a stream, and every one of them opens. -/
theorem chunkFrames_stream (aead : Aead host.crates) (chunkSize : UInt32) (index : Nat)
    (chunks : List Chunk) (chunked : chunks ≠ [])
    (ciphered : ∀ sealing ∈ chunkSeals superblockDigest index chunks,
      SealedBy host keyBytes sealing)
    (sized : ∀ chunk ∈ chunks, chunk.message.length ≤ chunkSize.toNat)
    (spoken : ∀ chunk ∈ chunks.dropLast, chunk.message ≠ [])
    (addressable : index + chunks.length ≤ 2 ^ 64) :
    Stream chunkSize index (chunkFrames chunks) ∧
      Opened host keyBytes superblockDigest index (chunkFrames chunks)
        (chunks.map Chunk.message) := by
  -- What one sealed chunk gives, at its index and as the last one or not.
  have single (index : Nat) (chunk : Chunk) (isLast : Bool)
      (ciphered : SealedBy host keyBytes (chunk.sealing superblockDigest index isLast))
      (small : chunk.message.length ≤ chunkSize.toNat)
      (spoken : isLast = false → chunk.message ≠ []) (indexed : index < 2 ^ 64) :
      Acceptable chunkSize index (chunk.frame isLast) ∧
        openChunk host keyBytes superblockDigest
          ((chunk.frame isLast).header (UInt64.ofNat index)) (chunk.frame isLast).ciphertext =
            .ok chunk.message := by
    obtain ⟨encrypted, fits⟩ := ciphered
    obtain ⟨deciphered, tagged⟩ := aead.opens _ _ _ _ _ encrypted
    have wide := chunkSize.toNat_lt
    have length := toNat_ofNat_length chunk.message (by omega)
    have flagged : decide (flagByte isLast ≠ 0) = isLast := by
      cases isLast <;> rfl
    refine ⟨⟨indexed, ?_, ?_, fits, ?_⟩, (openChunk_ok _ _ _ _ _ _).mpr ⟨?_, length.symm⟩⟩
    · rw [UInt32.le_iff_toNat_le]
      simpa only [Chunk.frame, length] using small
    · simpa only [Chunk.frame, Chunk.sealing, length] using tagged
    · intro open_ zero
      have notLast : isLast = false := by
        rw [← flagged]
        simpa [Chunk.frame] using open_
      apply spoken notLast
      rw [← List.length_eq_zero_iff, ← length]
      exact congrArg UInt32.toNat zero
    · cases isLast <;> exact deciphered
  induction chunks generalizing index with
  | nil => exact absurd rfl chunked
  | cons chunk rest ih =>
      have small := sized chunk (by simp)
      have indexed : index < 2 ^ 64 := by
        rw [List.length_cons] at addressable
        omega
      cases rest with
      | nil =>
          obtain ⟨acceptable, opened⟩ := single index chunk true (ciphered _ (by simp [chunkSeals]))
            small (by simp) indexed
          exact ⟨.last acceptable (by simp [Chunk.frame, flagByte]), .cons opened .nil⟩
      | cons second others =>
          obtain ⟨acceptable, opened⟩ := single index chunk false
            (ciphered _ (by simp [chunkSeals])) small (fun _ => spoken chunk (by simp)) indexed
          obtain ⟨stream, later⟩ := ih (index + 1) (by simp)
            (fun sealing member => ciphered sealing (List.mem_cons_of_mem _ member))
            (fun other member => sized other (List.mem_cons_of_mem _ member))
            (fun other member => spoken other (by
              rw [List.dropLast_cons_of_ne_nil (by simp)]
              exact List.mem_cons_of_mem _ member))
            (by
              rw [List.length_cons] at addressable
              omega)
          exact ⟨.more acceptable (by simp [Chunk.frame, flagByte]) stream, .cons opened later⟩

/-- What a whole encryption sealed is a stream that opens to what was read. -/
theorem chunkFrames_pieces (aead : Aead host.crates) (chunkSize : UInt32)
    (reader : PlaintextReader chunkSize.toNat) (chunks : List Chunk) (chunked : chunks ≠ [])
    (messages : chunks.map Chunk.message = pieces reader ∨
      (pieces reader = [] ∧ chunks.map Chunk.message = [[]]))
    (ciphered : ∀ sealing ∈ chunkSeals superblockDigest 0 chunks, SealedBy host keyBytes sealing)
    (addressable : chunks.length ≤ 2 ^ 64) :
    Stream chunkSize 0 (chunkFrames chunks) ∧
      Opened host keyBytes superblockDigest 0 (chunkFrames chunks) (chunks.map Chunk.message) ∧
      plaintextTotal (chunkFrames chunks) = (pieces reader).flatten.length ∧
      (chunks.map Chunk.message).flatten = (pieces reader).flatten := by
  have flat : (chunks.map Chunk.message).flatten = (pieces reader).flatten := by
    rcases messages with same | ⟨empty, single⟩
    · rw [same]
    · rw [single, empty]
      rfl
  have sized : ∀ chunk ∈ chunks, chunk.message.length ≤ chunkSize.toNat := by
    intro chunk member
    have there := List.mem_map_of_mem (f := Chunk.message) member
    rcases messages with same | ⟨_, single⟩
    · rw [same] at there
      exact (pieces_sized reader _ there).2
    · rw [single, List.mem_singleton] at there
      rw [there]
      exact Nat.zero_le _
  -- Only a last chunk may be empty: the reads themselves never are.
  have spoken : ∀ chunk ∈ chunks.dropLast, chunk.message ≠ [] := by
    intro chunk member
    have there := List.mem_map_of_mem (f := Chunk.message) member
    rw [List.map_dropLast] at there
    rcases messages with same | ⟨_, single⟩
    · rw [same] at there
      exact (pieces_sized reader _ (List.dropLast_subset _ there)).1
    · rw [single] at there
      cases there
  obtain ⟨framed, opened⟩ := chunkFrames_stream host keyBytes superblockDigest aead chunkSize 0
    chunks chunked ciphered sized spoken (by rwa [Nat.zero_add])
  refine ⟨framed, opened, ?_, flat⟩
  rw [← opened_lengths _ _ _ opened, flat]

end Encrypt

section Steady
variable {related : World → World → Prop} (steady : Steady related)
  (hears : Hears related) (host : Host) (writer : Writer) (keyBytes superblockDigest : Block 32)
  (onProgress : Bool) (cancellation : Option CancellationToken)
include steady

theorem sealChunk_steady (index : Nat) (plaintext : Bytes) (isLast : Bool) :
    Run.Keeps related
      (sealChunk host writer keyBytes superblockDigest index plaintext isLast) := by
  refine steady.bind (draw_steady steady _) fun nonce => ?_
  split
  · exact steady.fail _
  · exact steady.bind (emit_steady _ (steady.sealed _ _ _ _))
      fun _ => writeChunkFrame_steady steady host writer _ _

include hears

theorem encryptLoop_steady {size : Nat} (totalPlaintext : Nat) (reader : PlaintextReader size)
    (current : Piece size) (index written : Nat) :
    Run.Keeps related (encryptLoop host writer keyBytes superblockDigest totalPlaintext onProgress
      cancellation reader current index written) := by
  induction reader generalizing current index written with
  | nil =>
      refine steady.bind (ensureNotCancelled_steady steady cancellation) fun _ => ?_
      refine steady.bind (sealChunk_steady steady host writer keyBytes superblockDigest _ _ _)
        fun _ => ?_
      exact steady.bind (emitProgress_steady steady hears _ _ _ _) fun _ => steady.pure _
  | cons read rest ih =>
      cases read with
      | error kind =>
          exact steady.bind (ensureNotCancelled_steady steady cancellation) fun _ => steady.fail _
      | ok next =>
          refine steady.bind (ensureNotCancelled_steady steady cancellation) fun _ => ?_
          refine steady.bind (sealChunk_steady steady host writer keyBytes superblockDigest _ _ _)
            fun _ => ?_
          exact steady.bind (emitProgress_steady steady hears _ _ _ _) fun _ => ih next (index + 1) _

theorem encryptProtectedStreamWithCancel_steady {chunkSize : Nat} (totalPlaintext : Nat)
    (reader : PlaintextReader chunkSize) :
    Run.Keeps related (encryptProtectedStreamWithCancel host writer keyBytes superblockDigest
      totalPlaintext onProgress cancellation reader) := by
  refine steady.lift_bind fun _ => ?_
  refine steady.bind (ensureNotCancelled_steady steady cancellation) fun _ => ?_
  split
  · refine steady.bind (sealChunk_steady steady host writer keyBytes superblockDigest _ _ _)
      fun _ => ?_
    exact steady.bind (emitProgress_steady steady hears _ _ _ _) fun _ => steady.pure _
  · exact steady.fail _
  · exact encryptLoop_steady steady hears host writer keyBytes superblockDigest onProgress
      cancellation _ _ _ _ _

variable (chunkSize : UInt32) (expectedPlaintext : Nat)

theorem decryptLoop_steady (budget index written : Nat) (input : Bytes) :
    Run.Keeps related (decryptLoop host writer keyBytes superblockDigest chunkSize expectedPlaintext
      onProgress cancellation budget index written input) := by
  induction budget generalizing index written input with
  | zero => exact steady.fail _
  | succ budget ih =>
      refine steady.bind (ensureNotCancelled_steady steady cancellation) fun _ => ?_
      refine steady.lift_bind fun read => ?_
      split
      · split
        · exact steady.fail _
        · exact steady.pure _
      · refine steady.lift_bind fun _ => steady.lift_bind fun plaintext => ?_
        refine steady.bind (writeAll_steady steady host writer plaintext) fun _ => ?_
        refine steady.bind (emitProgress_steady steady hears _ _ _ _) fun _ => ?_
        split
        · exact steady.pure _
        · exact ih _ _ _

theorem decryptProtectedStreamToWriterWithCancel_steady (reader : Bytes) :
    Run.Keeps related (decryptProtectedStreamToWriterWithCancel host writer keyBytes
      superblockDigest chunkSize expectedPlaintext onProgress cancellation reader) := by
  refine steady.bind (ensureNotCancelled_steady steady cancellation) fun _ => ?_
  refine steady.bind (decryptLoop_steady steady hears host writer keyBytes superblockDigest onProgress
    cancellation chunkSize expectedPlaintext _ _ _ _) fun stop => ?_
  exact steady.lift_bind fun _ => steady.lift_bind fun _ => steady.pure _

end Steady

end ProtectedStream
