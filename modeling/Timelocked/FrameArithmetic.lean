import Timelocked.Panics
import Timelocked.ArtifactWriter

/-!
The arithmetic of the two frame loops, with every sum and difference of the
source as an operation that may panic. The running totals stay within the
length of the input; the sum of a plaintext length and the tag does not stay
within its 32 bits when the chunk size leaves room for such a length.
-/
namespace FrameArithmetic
open ByteCodec RunRules Base ChunkFrame ProtectedStream Superblock Panics

def addU32 (left right : UInt32) : Guarded Error UInt32 :=
  if left.toNat + right.toNat < 2 ^ 32 then .ok (left + right) else panics .arithmeticOverflow

/-- The bytes filled so far are counted, at most eight of them; nothing else in
reading a frame is arithmetic. -/
def readChunkFrame (input : Bytes) :
    Guarded Error (Option (ChunkFrameHeader × Bytes × Bytes)) := do
  let _filled ← add 0 (min 8 input.length)
  returns (ChunkFrame.readChunkFrame input)

def validateChunkFrame (frame : ChunkFrameHeader) (ciphertextLen : Nat) (chunkSize : UInt32)
    (expectedIndex : Nat) : Guarded Error Unit := do
  let index := frame.index
  let plaintextLen := frame.plaintextLen
  returns (rejectIf (index.toNat ≠ expectedIndex)
    (.invalidFormat s!"non-contiguous chunk index at {expectedIndex}, got {index}"))
  returns (rejectIf (plaintextLen > chunkSize)
    (.invalidFormat
      s!"chunk {index} plaintext_len {plaintextLen} exceeds configured chunk size {chunkSize}"))
  let sum ← addU32 plaintextLen aeadTagBytes
  returns (rejectIf (frame.ciphertextLen ≠ sum)
    (.invalidFormat s!"chunk {index} ciphertext_len mismatch"))
  returns (rejectIf (UInt32.ofNat ciphertextLen ≠ frame.ciphertextLen)
    (.invalidFormat s!"chunk {index} ciphertext bytes truncated"))

def validateProtectedStreamFrame (frame : ChunkFrameHeader) (ciphertextLen : Nat)
    (chunkSize : UInt32) (expectedIndex : Nat) : Guarded Error Unit := do
  validateChunkFrame frame ciphertextLen chunkSize expectedIndex
  returns (rejectIf (frame.isLast = false ∧ frame.plaintextLen = 0)
    (.invalidFormat "non-terminal chunks must carry plaintext bytes"))

def finishLoop (stop : LoopEnd) : Guarded Error Unit := do
  returns (rejectIf (stop.sawLast = false) (.invalidFormat "missing terminal chunk marker"))
  let trailing ← readChunkFrame stop.rest
  returns (rejectIf trailing.isSome
    (.invalidFormat "unexpected trailing chunk data after terminal chunk"))

def scanLoop (chunkSize : UInt32) : Nat → Nat → Nat → Bytes → Guarded Error LoopEnd
  | 0, _, _, _ => returns (.error eof)
  | budget + 1, expectedIndex, plaintextBytes, input => do
      match ← readChunkFrame input with
      | none =>
          if expectedIndex = 0 then returns (.error (.invalidFormat "missing chunk frames"))
          else pure ⟨expectedIndex, plaintextBytes, false, []⟩
      | some (frame, ciphertext, rest) =>
          validateProtectedStreamFrame frame ciphertext.length chunkSize expectedIndex
          let plaintextBytes ← add plaintextBytes frame.plaintextLen.toNat
          let expectedIndex ← add expectedIndex 1
          if frame.isLast then pure ⟨expectedIndex, plaintextBytes, true, rest⟩
          else scanLoop chunkSize budget expectedIndex plaintextBytes rest

def scanProtectedStreamStructural (reader : Bytes) (chunkSize : UInt32) :
    Guarded Error ChunkDecryptionStats := do
  let stop ← scanLoop chunkSize (reader.length + 1) 0 0 reader
  finishLoop stop
  pure ⟨stop.expectedIndex, stop.plaintextBytes⟩

def remaining (current total : Nat) : Guarded Error Nat :=
  if current ≠ 0 ∧ total > current then sub total current else pure 0

section Decrypt
variable (host : Host) (writer : Writer) (keyBytes superblockDigest : Block 32)
  (chunkSize : UInt32) (expectedPlaintext : Nat) (onProgress : Bool)
  (cancellation : Option CancellationToken)

def decryptLoop : Nat → Nat → Nat → Bytes → Run (Stop Error) World LoopEnd
  | 0, _, _, _ => raise (Run.fail eof)
  | budget + 1, expectedIndex, written, input => do
      raise (ensureNotCancelled cancellation)
      match ← Run.lift (readChunkFrame input) with
      | none =>
          if expectedIndex = 0 then raise (Run.fail (.invalidFormat "missing chunk frames"))
          else pure ⟨expectedIndex, written, false, []⟩
      | some (frame, ciphertext, rest) =>
          Run.lift (validateProtectedStreamFrame frame ciphertext.length chunkSize expectedIndex)
          let plaintext ← raise
            (Run.lift (openChunk host keyBytes superblockDigest frame ciphertext))
          raise (writeAll host writer plaintext)
          let written ← Run.lift (add written plaintext.length)
          let _left ← Run.lift (remaining written expectedPlaintext)
          raise (emitProgress onProgress "unlock-decrypt" written expectedPlaintext)
          let expectedIndex ← Run.lift (add expectedIndex 1)
          if frame.isLast then pure ⟨expectedIndex, written, true, rest⟩
          else decryptLoop budget expectedIndex written rest

def decryptProtectedStreamToWriterWithCancel (reader : Bytes) :
    Run (Stop Error) World ChunkDecryptionStats := do
  raise (ensureNotCancelled cancellation)
  let stop ← decryptLoop host writer keyBytes superblockDigest chunkSize expectedPlaintext
    onProgress cancellation (reader.length + 1) 0 0 reader
  Run.lift (finishLoop stop)
  let written := stop.plaintextBytes
  raise (Run.lift (rejectIf (written ≠ expectedPlaintext)
    (.invalidFormat s!"plaintext size mismatch, expected {expectedPlaintext}, got {written}")))
  pure ⟨stop.expectedIndex, written⟩

end Decrypt

/-- Frames the loops accept, and after them one whose length and the tag need
more than 32 bits while the chunk size allows it. -/
inductive LeadsToWide (chunkSize : UInt32) : Nat → Bytes → Prop where
  | here {index rest} {frame : StoredFrame} (indexed : index < 2 ^ 64) (sized : frame.Sized)
      (bounded : frame.plaintextLen ≤ chunkSize) (wide : 2 ^ 32 ≤ frame.plaintextLen.toNat + 16) :
      LeadsToWide chunkSize index (frame.bytes (UInt64.ofNat index) ++ rest)
  | later {index rest} {frame : StoredFrame} (acceptable : Acceptable chunkSize index frame)
      (open_ : frame.terminal = 0) (leads : LeadsToWide chunkSize (index + 1) rest) :
      LeadsToWide chunkSize index (frame.bytes (UInt64.ofNat index) ++ rest)

/-- A chunk size that leaves room for the tag leads to no such frame. -/
theorem narrow_chunks (chunkSize : UInt32) (small : chunkSize.toNat + 16 < 2 ^ 32) (index : Nat)
    (input : Bytes) : ¬ LeadsToWide chunkSize index input := by
  intro leads
  induction leads with
  | here _ _ bounded wide =>
      have fits := UInt32.le_iff_toNat_le.mp bounded
      omega
  | later _ _ _ ih => exact ih

theorem addU32_eq (left right : UInt32) (fits : left.toNat + right.toNat < 2 ^ 32) :
    addU32 left right = .ok (left + right) := if_pos fits

theorem readChunkFrame_eq (input : Bytes) :
    readChunkFrame input = returns (ChunkFrame.readChunkFrame input) := by
  have filled : 0 + min 8 input.length < 2 ^ 64 := by omega
  unfold readChunkFrame
  rw [add_eq _ _ filled, ok_bind]

theorem validateProtectedStreamFrame_agrees (frame : ChunkFrameHeader) (ciphertextLen : Nat)
    (chunkSize : UInt32) (expectedIndex : Nat)
    (narrow : frame.index.toNat = expectedIndex → frame.plaintextLen ≤ chunkSize →
      frame.plaintextLen.toNat + 16 < 2 ^ 32) :
    Agrees (validateProtectedStreamFrame frame ciphertextLen chunkSize expectedIndex)
      (ProtectedStream.validateProtectedStreamFrame frame ciphertextLen chunkSize
        expectedIndex) := by
  unfold validateProtectedStreamFrame ProtectedStream.validateProtectedStreamFrame
  refine agrees_bind ?_ fun _ _ => agrees_returns _
  unfold validateChunkFrame ChunkFrame.validateChunkFrame
  refine agrees_rejectIf fun here => agrees_rejectIf fun bounded => ?_
  have fits := narrow (not_not.mp here) (UInt32.not_lt.mp bounded)
  refine agrees_step (addU32_eq _ _ fits) ?_
  exact agrees_rejectIf fun _ => agrees_returns _

theorem validateProtectedStreamFrame_wide (frame : ChunkFrameHeader) (ciphertextLen : Nat)
    (chunkSize : UInt32) (expectedIndex : Nat) (here : frame.index.toNat = expectedIndex)
    (bounded : frame.plaintextLen ≤ chunkSize) (wide : 2 ^ 32 ≤ frame.plaintextLen.toNat + 16) :
    validateProtectedStreamFrame frame ciphertextLen chunkSize expectedIndex =
      panics .arithmeticOverflow := by
  have overflow : addU32 frame.plaintextLen aeadTagBytes = panics .arithmeticOverflow :=
    if_neg (Nat.not_lt.mpr wide)
  have within : ¬ frame.plaintextLen > chunkSize := UInt32.not_lt.mpr bounded
  unfold validateProtectedStreamFrame validateChunkFrame
  simp only [here, within, overflow, rejectIf, ne_eq, not_true_eq_false, if_false]
  rfl

theorem frame_length (frame : StoredFrame) (index : UInt64) :
    (frame.bytes index).length = 41 + frame.ciphertext.length := by
  simp only [StoredFrame.bytes, List.length_append, leBytes_length, frame.nonce.2, Word.width]
  omega

/-- A frame that leads to no wide one is narrow itself. -/
theorem read_narrow (chunkSize : UInt32) (index : Nat) (input ciphertext rest : Bytes)
    (header : ChunkFrameHeader)
    (taken : ChunkFrame.readChunkFrame input = .ok (some (header, ciphertext, rest)))
    (narrow : ¬ LeadsToWide chunkSize index input) (here : header.index.toNat = index)
    (bounded : header.plaintextLen ≤ chunkSize) : header.plaintextLen.toNat + 16 < 2 ^ 32 := by
  obtain ⟨frame, sized, same, rfl, rfl⟩ := (readChunkFrame_eq_some _ _ _ _).mp taken
  have indexed : header.index = UInt64.ofNat index := by
    rw [← here]
    exact UInt64.ofNat_toNat.symm
  have lengths : header.plaintextLen = frame.plaintextLen :=
    congrArg ChunkFrameHeader.plaintextLen same
  by_contra wide
  rw [indexed] at narrow
  apply narrow
  rw [lengths] at bounded wide
  exact .here (here ▸ header.index.toNat_lt) sized bounded (by omega)

/-- The frame at the head of the input is read, passes both checks, and the
totals of the next round are again within the input. -/
theorem accepted_round (chunkSize : UInt32) (index total : Nat) (input ciphertext rest : Bytes)
    (header : ChunkFrameHeader) (counted : index + input.length < 2 ^ 64)
    (summed : total + input.length < 2 ^ 64) (narrow : ¬ LeadsToWide chunkSize index input)
    (taken : ChunkFrame.readChunkFrame input = .ok (some (header, ciphertext, rest)))
    (valid : ProtectedStream.validateProtectedStreamFrame header ciphertext.length chunkSize index =
      .ok ()) :
    index + 1 + rest.length < 2 ^ 64 ∧
      total + header.plaintextLen.toNat + rest.length < 2 ^ 64 ∧
      (header.isLast = false → ¬ LeadsToWide chunkSize (index + 1) rest) := by
  obtain ⟨frame, acceptable, rfl, rfl, rfl⟩ :=
    (acceptable_iff chunkSize index _ _ _ _).mp ⟨taken, valid⟩
  have width := frame_length frame (UInt64.ofNat index)
  have tagged := acceptable.tagged
  have lengths : (frame.header (UInt64.ofNat index)).plaintextLen = frame.plaintextLen := rfl
  rw [List.length_append, width] at counted summed
  refine ⟨by omega, by rw [lengths]; omega, fun open_ leads => narrow ?_⟩
  exact .later acceptable (by simpa [StoredFrame.header] using open_) leads

theorem scanLoop_agrees (chunkSize : UInt32) (budget index total : Nat) (input : Bytes)
    (counted : index + input.length < 2 ^ 64) (summed : total + input.length < 2 ^ 64)
    (narrow : ¬ LeadsToWide chunkSize index input) :
    Agrees (scanLoop chunkSize budget index total input)
      (ProtectedStream.scanLoop chunkSize budget index total input) := by
  induction budget generalizing index total input with
  | zero => exact agrees_returns _
  | succ budget ih =>
      rw [scanLoop, ProtectedStream.scanLoop, readChunkFrame_eq]
      refine agrees_bind (agrees_returns _) fun read taken => ?_
      cases read with
      | none =>
          dsimp only
          split
          · exact agrees_returns _
          · exact agrees_pure _
      | some item =>
          obtain ⟨header, ciphertext, rest⟩ := item
          refine agrees_bind (validateProtectedStreamFrame_agrees _ _ _ _
            (read_narrow chunkSize index input ciphertext rest header taken narrow)) fun _ valid => ?_
          obtain ⟨counted', summed', narrow'⟩ := accepted_round chunkSize index total input
            ciphertext rest header counted summed narrow taken valid
          refine agrees_step (add_eq _ _ (by omega)) (agrees_step (add_eq _ _ (by omega)) ?_)
          cases last : header.isLast with
          | true => exact agrees_pure _
          | false => exact ih _ _ _ counted' summed' (narrow' last)

theorem scanLoop_wide (chunkSize : UInt32) (budget index total : Nat) (input : Bytes)
    (counted : index + input.length < 2 ^ 64) (summed : total + input.length < 2 ^ 64)
    (enough : input.length < budget) (leads : LeadsToWide chunkSize index input) :
    scanLoop chunkSize budget index total input = panics .arithmeticOverflow := by
  -- Induction on the frames before the wide one, each of which takes a round.
  induction leads generalizing budget total with
  | @here index rest frame indexed sized bounded wide =>
      obtain ⟨budget, rfl⟩ := Nat.exists_eq_succ_of_ne_zero (n := budget) (by omega)
      have taken : ChunkFrame.readChunkFrame (frame.bytes (UInt64.ofNat index) ++ rest) =
          .ok (some (frame.header (UInt64.ofNat index), frame.ciphertext, rest)) :=
        (readChunkFrame_eq_some _ _ _ _).mpr ⟨frame, sized, rfl, rfl, rfl⟩
      have here : (frame.header (UInt64.ofNat index)).index.toNat = index :=
        (UInt64.toNat_ofNat' (n := index)).trans (Nat.mod_eq_of_lt indexed)
      have stopped := validateProtectedStreamFrame_wide (frame.header (UInt64.ofNat index))
        frame.ciphertext.length chunkSize index here bounded wide
      rw [scanLoop, readChunkFrame_eq, taken]
      simp only [returns, Except.mapError, ok_bind, stopped]
      rfl
  | @later index rest frame acceptable open_ _ ih =>
      obtain ⟨budget, rfl⟩ := Nat.exists_eq_succ_of_ne_zero (n := budget) (by omega)
      obtain ⟨taken, valid⟩ := (acceptable_iff chunkSize index _ _ rest _).mpr
        ⟨frame, acceptable, rfl, rfl, rfl⟩
      have tagged := acceptable.tagged
      have sized := acceptable.sized
      have lengths : (frame.header (UInt64.ofNat index)).plaintextLen = frame.plaintextLen := rfl
      have flagged : (frame.header (UInt64.ofNat index)).isLast = false := by
        simpa [StoredFrame.header] using open_
      have passed : validateProtectedStreamFrame (frame.header (UInt64.ofNat index))
          frame.ciphertext.length chunkSize index = .ok () := by
        rw [validateProtectedStreamFrame_agrees _ _ _ _ fun _ _ => by rw [lengths]; omega, valid]
        rfl
      rw [List.length_append, frame_length] at counted summed enough
      rw [scanLoop, readChunkFrame_eq, taken]
      simp only [returns, Except.mapError, ok_bind, passed, lengths, flagged, Bool.false_eq_true,
        if_false]
      rw [add_eq _ _ (by omega), ok_bind, add_eq _ _ (by omega), ok_bind]
      exact ih budget _ (by omega) (by omega) (by omega)

theorem finishLoop_agrees (stop : LoopEnd) :
    Agrees (finishLoop stop) (ProtectedStream.finishLoop stop) := by
  unfold finishLoop ProtectedStream.finishLoop
  rw [readChunkFrame_eq]
  refine agrees_rejectIf fun _ => agrees_bind (agrees_returns _) fun _ _ => agrees_returns _

theorem scan_agrees (chunkSize : UInt32) (reader : Bytes) (addressable : reader.length < 2 ^ 64)
    (narrow : ¬ LeadsToWide chunkSize 0 reader) :
    Agrees (scanProtectedStreamStructural reader chunkSize)
      (ProtectedStream.scanProtectedStreamStructural reader chunkSize) := by
  refine agrees_bind (scanLoop_agrees chunkSize _ 0 0 reader (by omega) (by omega) narrow)
    fun stop _ => ?_
  exact agrees_bind (finishLoop_agrees stop) fun _ _ => agrees_pure _

theorem scan_wide (chunkSize : UInt32) (reader : Bytes) (addressable : reader.length < 2 ^ 64)
    (leads : LeadsToWide chunkSize 0 reader) :
    scanProtectedStreamStructural reader chunkSize = panics .arithmeticOverflow := by
  have stopped := scanLoop_wide chunkSize (reader.length + 1) 0 0 reader (by omega) (by omega)
    (by omega) leads
  rw [scanProtectedStreamStructural, stopped]
  rfl

theorem remaining_eq (current total : Nat) : ∃ left, remaining current total = .ok left := by
  unfold remaining
  split
  · rename_i ahead
    exact ⟨_, sub_eq _ _ (Nat.le_of_lt ahead.2)⟩
  · exact ⟨0, rfl⟩

section Decrypt
variable (host : Host) (writer : Writer) (keyBytes superblockDigest : Block 32)
  (chunkSize : UInt32) (expectedPlaintext : Nat) (onProgress : Bool)
  (cancellation : Option CancellationToken)

theorem decryptLoop_agrees (budget index written : Nat) (input : Bytes)
    (counted : index + input.length < 2 ^ 64) (summed : written + input.length < 2 ^ 64)
    (narrow : ¬ LeadsToWide chunkSize index input) :
    RunAgrees (decryptLoop host writer keyBytes superblockDigest chunkSize expectedPlaintext
        onProgress cancellation budget index written input)
      (ProtectedStream.decryptLoop host writer keyBytes superblockDigest chunkSize
        expectedPlaintext onProgress cancellation budget index written input) := by
  induction budget generalizing index written input with
  | zero => exact runAgrees_raise _
  | succ budget ih =>
      rw [decryptLoop, ProtectedStream.decryptLoop, readChunkFrame_eq]
      refine runAgrees_bind (runAgrees_raise _) fun _ _ _ _ => ?_
      refine runAgrees_bind (runAgrees_lift (agrees_returns _)) fun s read s' taking => ?_
      have taken : ChunkFrame.readChunkFrame input = .ok read := (Prod.mk.inj taking).1
      cases read with
      | none =>
          dsimp only
          split
          · exact runAgrees_raise _
          · exact runAgrees_pure _
      | some item =>
          obtain ⟨header, ciphertext, rest⟩ := item
          refine runAgrees_bind (runAgrees_lift (validateProtectedStreamFrame_agrees _ _ _ _
            (read_narrow chunkSize index input ciphertext rest header taken narrow)))
            fun _ _ _ checking => ?_
          have valid := (Prod.mk.inj checking).1
          obtain ⟨counted', summed', narrow'⟩ := accepted_round chunkSize index written input
            ciphertext rest header counted summed narrow taken valid
          refine runAgrees_bind (runAgrees_raise _) fun _ plaintext _ opening => ?_
          have length := ((openChunk_ok _ _ _ _ _ _).mp (Prod.mk.inj opening).1).2
          rw [← length] at summed'
          obtain ⟨left, leaves⟩ := remaining_eq (written + plaintext.length) expectedPlaintext
          refine runAgrees_bind (runAgrees_raise _) fun _ _ _ _ => ?_
          refine runAgrees_step (add_eq _ _ (by omega)) (runAgrees_step leaves ?_)
          refine runAgrees_bind (runAgrees_raise _) fun _ _ _ _ => ?_
          refine runAgrees_step (add_eq _ _ (by omega)) ?_
          cases last : header.isLast with
          | true => exact runAgrees_pure _
          | false => exact ih _ _ _ counted' summed' (narrow' last)

theorem decrypt_agrees (reader : Bytes) (addressable : reader.length < 2 ^ 64)
    (narrow : ¬ LeadsToWide chunkSize 0 reader) :
    RunAgrees (decryptProtectedStreamToWriterWithCancel host writer keyBytes superblockDigest
        chunkSize expectedPlaintext onProgress cancellation reader)
      (ProtectedStream.decryptProtectedStreamToWriterWithCancel host writer keyBytes
        superblockDigest chunkSize expectedPlaintext onProgress cancellation reader) := by
  refine runAgrees_bind (runAgrees_raise _) fun _ _ _ _ => ?_
  refine runAgrees_bind (decryptLoop_agrees host writer keyBytes superblockDigest chunkSize
    expectedPlaintext onProgress cancellation _ 0 0 reader (by omega) (by omega) narrow)
    fun _ stop _ _ => ?_
  refine runAgrees_bind (runAgrees_lift (finishLoop_agrees stop)) fun _ _ _ _ => ?_
  exact runAgrees_bind (runAgrees_raise _) fun _ _ _ _ => runAgrees_pure _

end Decrypt

/-- Neither scanning nor decrypting overflows on exactly the inputs that do not
lead to a wide frame. -/
theorem no_overflow_iff (chunkSize : UInt32) (reader : Bytes)
    (addressable : reader.length < 2 ^ 64) :
    ((∀ cause, scanProtectedStreamStructural reader chunkSize ≠ .error (.panic cause)) ∧
      ∀ host writer keyBytes superblockDigest expectedPlaintext onProgress cancellation world cause,
        (decryptProtectedStreamToWriterWithCancel host writer keyBytes superblockDigest chunkSize
          expectedPlaintext onProgress cancellation reader world).1 ≠ .error (.panic cause)) ↔
      ¬ LeadsToWide chunkSize 0 reader := by
  constructor
  · rintro ⟨scans, _⟩ leads
    exact scans .arithmeticOverflow (scan_wide chunkSize reader addressable leads)
  · intro narrow
    refine ⟨agrees_ne_panic (scan_agrees chunkSize reader addressable narrow), ?_⟩
    intro host writer keyBytes superblockDigest expectedPlaintext onProgress cancellation
    exact runAgrees_ne_panic (decrypt_agrees host writer keyBytes superblockDigest chunkSize
      expectedPlaintext onProgress cancellation reader addressable narrow)

def claiming (plaintextLen : UInt32) : StoredFrame := ⟨1, plaintextLen, zeros 24, (zeros 16).1⟩

def claimingBytes (plaintextLen : UInt32) : Bytes := (claiming plaintextLen).bytes 0

theorem no_overflow_small :
    scanProtectedStreamStructural (claimingBytes 0) 4 ≠ .error (.panic .arithmeticOverflow) ∧
      ¬ LeadsToWide 4 0 (claimingBytes 0) :=
  have narrow := narrow_chunks 4 (by decide) 0 (claimingBytes 0)
  ⟨((no_overflow_iff 4 (claimingBytes 0) (by decide)).mpr narrow).1 .arithmeticOverflow, narrow⟩

def wideBody : SuperblockBody := { ArtifactWriter.smallBody with aeadChunkSizeBytes := 0xFFFFFFFF }

theorem admitted_overflows :
    ¬ ∀ body : SuperblockBody, body.validate = .ok () → ∀ reader : Bytes, reader.length < 2 ^ 64 →
      ∀ cause, scanProtectedStreamStructural reader body.aeadChunkSizeBytes ≠
        .error (.panic cause) := by
  intro all
  have admitted : wideBody.validate = .ok () := by decide +kernel
  have leads : LeadsToWide wideBody.aeadChunkSizeBytes 0
      (claimingBytes 0xFFFFFFF8 ++ []) :=
    @LeadsToWide.here _ 0 [] (claiming 0xFFFFFFF8) (by decide)
      ⟨by simp [claiming, (zeros 16).2], by simp [claiming, (zeros 16).2]⟩ (by decide) (by decide)
  rw [List.append_nil] at leads
  have addressable : (claimingBytes 0xFFFFFFF8).length < 2 ^ 64 := by decide
  exact all wideBody admitted _ addressable .arithmeticOverflow
    (scan_wide _ _ addressable leads)

end FrameArithmetic
