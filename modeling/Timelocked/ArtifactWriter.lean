import Mathlib.Algebra.BigOperators.Group.List.Basic
import Timelocked.ArtifactReader
import Timelocked.PayloadRegion
import Timelocked.ProtectedStream

/-!
Writing an artifact. The superblock is finished, lengths included, before the
first chunk is sealed, because its digest is part of every chunk; the lengths
are predicted and compared with what was written.
-/
namespace ArtifactWriter
open ByteCodec RunRules Base Superblock Notice ArtifactReader PayloadRegion ProtectedStream

def defaultLockChunkSizeBytes : UInt32 := 1024 * 1024
def defaultRsDataShards : UInt16 := 4
def defaultRsParityShards : UInt16 := 2
def defaultRsShardBytes : UInt32 := 64 * 1024
def minAdaptiveRsShardBytes : UInt32 := 64

structure LockArtifactRequest where
  notice : Option String
  originalFilename : Option String
  iterations : UInt64
  modulusBits : UInt16
  hardwareProfile : String
  targetSeconds : Option UInt64
  createdAtUnixSeconds : UInt64
  payloadPlaintextBytes : UInt64
  aeadChunkSizeBytes : UInt32
  payloadRegionParams : PayloadRegionLayout
  keyBytes : Block 32
  timelockMaterial : TimelockPayloadMaterial
  passwordProtection : Option PasswordProtectionMetadata

def predictedProtectedStreamLen (payloadPlaintextBytes : UInt64) (chunkSize : UInt32) :
    Except Error UInt64 := do
  rejectIf (chunkSize = 0) (.invalidArgument "aead_chunk_size_bytes must be greater than 0")
  let chunkCount : Nat :=
    if payloadPlaintextBytes = 0 then 1
    else (payloadPlaintextBytes.toNat + chunkSize.toNat - 1) / chunkSize.toNat
  pure (payloadPlaintextBytes + UInt64.ofNat chunkCount * 57)

def nextPowerOfTwo (value : Nat) : Nat := if value ≤ 1 then 1 else 2 ^ ((value - 1).log2 + 1)

def chooseRsShardBytesForProtectedStreamLen (protectedStreamLen : UInt64) : UInt32 :=
  if protectedStreamLen.toNat ≥ defaultRsShardBytes.toNat then defaultRsShardBytes
  else
    let dataShards := defaultRsDataShards.toNat
    let requiredShardBytes := (protectedStreamLen.toNat + dataShards - 1) / dataShards
    UInt32.ofNat (max (nextPowerOfTwo requiredShardBytes) minAdaptiveRsShardBytes.toNat)

def superblockOf (request : LockArtifactRequest) (protectedStreamLen payloadRegionLen : UInt64) :
    SuperblockBody where
  bodyVersion := if request.passwordProtection.isSome then bodyVersionV2 else bodyVersionV1
  flags := 0
  payloadPlaintextBytes := request.payloadPlaintextBytes
  protectedStreamLen := protectedStreamLen
  payloadRegionLen := payloadRegionLen
  aeadChunkSizeBytes := request.aeadChunkSizeBytes
  aeadCipherId := aeadCipherIdXchacha20poly1305
  rsAlgorithmId := rsAlgorithmIdGf256ReedSolomon
  rsDataShards := request.payloadRegionParams.rsDataShards
  rsParityShards := request.payloadRegionParams.rsParityShards
  rsShardBytes := request.payloadRegionParams.rsShardBytes
  timelockAlgorithmId := timelockAlgorithmIdRswRepeatedSquaringV1
  iterations := request.iterations
  modulusBits := request.modulusBits
  targetSeconds := request.targetSeconds
  createdAtUnixSeconds := request.createdAtUnixSeconds
  originalFilename := request.originalFilename
  hardwareProfile := request.hardwareProfile
  timelockMaterial := request.timelockMaterial
  passwordProtection := request.passwordProtection

/-- The superblock an artifact will have, before anything is encrypted. -/
def plannedSuperblock (request : LockArtifactRequest) : Except Error SuperblockBody := do
  let protectedStreamLen ←
    predictedProtectedStreamLen request.payloadPlaintextBytes request.aeadChunkSizeBytes
  let payloadRegionLen ← encodedPayloadRegionLen protectedStreamLen request.payloadRegionParams
  pure (superblockOf request protectedStreamLen payloadRegionLen)

theorem plannedSuperblock_ok (request : LockArtifactRequest) (body : SuperblockBody)
    (planned : plannedSuperblock request = .ok body) :
    predictedProtectedStreamLen request.payloadPlaintextBytes request.aeadChunkSizeBytes =
        .ok body.protectedStreamLen ∧
      encodedPayloadRegionLen body.protectedStreamLen request.payloadRegionParams =
        .ok body.payloadRegionLen ∧
      body = superblockOf request body.protectedStreamLen body.payloadRegionLen := by
  unfold plannedSuperblock at planned
  obtain ⟨streamLen, predicted, p₁⟩ := (bind_eq_ok _ _ _).mp planned
  obtain ⟨regionLen, sized, returned⟩ := (bind_eq_ok _ _ _).mp p₁
  cases returned
  exact ⟨predicted, sized, rfl⟩

section Write
variable (host : Host) (writer : Writer) (request : LockArtifactRequest)
  (plaintextReader : PlaintextReader request.aeadChunkSizeBytes.toNat) (onProgress : Bool)
  (cancellation : Option CancellationToken)

def writeTimelockedArtifact : Op Unit := do
  let layout := request.payloadRegionParams
  let superblock ← Run.lift (plannedSuperblock request)
  let digest ← Run.lift (superblockDigest host.crates superblock)
  let (stats, protectedStream) ← capture
    (encryptProtectedStreamWithCancel host .memory request.keyBytes digest
      request.payloadPlaintextBytes.toNat onProgress cancellation plaintextReader)
  Run.lift (rejectIf (stats.plaintextBytes ≠ request.payloadPlaintextBytes.toNat)
    (.invalidFormat "protected stream plaintext length mismatch"))
  Run.lift (rejectIf (protectedStream.length ≠ superblock.protectedStreamLen.toNat)
    (.invalidFormat "protected stream length mismatch"))
  let payloadRegion ← Run.lift (encodePayloadRegion host.crates protectedStream layout)
  Run.lift (rejectIf (payloadRegion.length ≠ superblock.payloadRegionLen.toNat)
    (.invalidFormat "payload region length mismatch"))
  let notice ← Run.lift (encodeNotice (request.notice.getD defaultNoticeText))
  writeAll host writer notice
  let startCopy ← Run.lift (encodeStartSuperblockCopy host.crates superblock)
  writeAll host writer startCopy
  writeAll host writer payloadRegion
  let endCopy ← Run.lift (encodeEndSuperblockCopy host.crates superblock)
  writeAll host writer endCopy

structure Written (artifact : Bytes) (before after : World) (body : SuperblockBody)
    (bodyBytes notice stream region : Bytes) (chunks : List Chunk) : Prop where
  planned : plannedSuperblock request = .ok body
  encoded : encodeSuperblockBody body = .ok bodyBytes
  noticed : encodeNotice (request.notice.getD defaultNoticeText) = .ok notice
  artifact_eq : artifact = notice ++ (startFrame host.crates bodyBytes ++
    (region ++ endFrame host.crates bodyBytes))
  striped : encodePayloadRegion host.crates stream request.payloadRegionParams = .ok region
  region_length : region.length = body.payloadRegionLen.toNat
  stream_eq : stream = streamBytes 0 (chunkFrames chunks)
  stream_length : stream.length = body.protectedStreamLen.toNat
  chunked : chunks ≠ []
  messages : chunks.map Chunk.message = pieces plaintextReader ∨
    (pieces plaintextReader = [] ∧ chunks.map Chunk.message = [[]])
  plaintext_length : (pieces plaintextReader).flatten.length = body.payloadPlaintextBytes.toNat
  seals : after.seals =
    (chunkSeals (host.crates.blake3 bodyBytes) 0 chunks).reverse ++ before.seals
  ciphered : ∀ sealing ∈ chunkSeals (host.crates.blake3 bodyBytes) 0 chunks,
    SealedBy host request.keyBytes sealing
  tree : after.tree = before.tree
  sink : after.sink = before.sink ++ artifact

theorem writeTimelockedArtifact_ok (before after : World)
    (success : writeTimelockedArtifact host writer request plaintextReader onProgress
      cancellation before = (.ok (), after)) :
    ∃ artifact body bodyBytes notice stream region chunks,
      Written host request plaintextReader artifact before after body bodyBytes notice stream
        region chunks := by
  unfold writeTimelockedArtifact at success
  -- The source's steps, one name each: plan, digest, stream, shards, notice, four writes.
  obtain ⟨body, planned, s₂⟩ := (Run.lift_bind_eq_ok _ _ _ _ _).mp success
  obtain ⟨digest, digested, s₃⟩ := (Run.lift_bind_eq_ok _ _ _ _ _).mp s₂
  obtain ⟨bodyBytes, encoded, digestEq⟩ := (bind_eq_ok _ _ _).mp digested
  cases digestEq
  obtain ⟨⟨stats, stream⟩, w₁, captured, s₄⟩ := (Run.bind_eq_ok _ _ _ _ _).mp s₃
  obtain ⟨_, plaintextSized, s₅⟩ := (Run.lift_bind_eq_ok _ _ _ _ _).mp s₄
  obtain ⟨_, streamSized, s₆⟩ := (Run.lift_bind_eq_ok _ _ _ _ _).mp s₅
  obtain ⟨region, striped, s₇⟩ := (Run.lift_bind_eq_ok _ _ _ _ _).mp s₆
  obtain ⟨_, regionSized, s₈⟩ := (Run.lift_bind_eq_ok _ _ _ _ _).mp s₇
  obtain ⟨notice, noticed, s₉⟩ := (Run.lift_bind_eq_ok _ _ _ _ _).mp s₈
  obtain ⟨_, w₂, wrote₁, s₁₀⟩ := (Run.bind_eq_ok _ _ _ _ _).mp s₉
  obtain ⟨startCopy, started, s₁₁⟩ := (Run.lift_bind_eq_ok _ _ _ _ _).mp s₁₀
  obtain ⟨_, w₃, wrote₂, s₁₂⟩ := (Run.bind_eq_ok _ _ _ _ _).mp s₁₁
  obtain ⟨_, w₄, wrote₃, s₁₃⟩ := (Run.bind_eq_ok _ _ _ _ _).mp s₁₂
  obtain ⟨endCopy, ended, wrote₄⟩ := (Run.lift_bind_eq_ok _ _ _ _ _).mp s₁₃
  clear success s₂ s₃ s₄ s₅ s₆ s₇ s₈ s₉ s₁₀ s₁₁ s₁₂ s₁₃
  obtain ⟨inner, sealing, rfl, rfl⟩ := (capture_eq_ok _ _ _ _ _).mp captured
  obtain ⟨chunks, chunked, messages, sealed, statsEq⟩ :=
    encryptProtectedStreamWithCancel_ok _ _ _ _ _ _ _ _ _ _ _ sealing
  rw [rejectIf_eq_ok, not_not] at plaintextSized streamSized regionSized
  have startEq : startFrame host.crates bodyBytes = startCopy := by
    rw [encodeStartSuperblockCopy, encoded] at started
    exact Except.ok.inj started
  have endEq : endFrame host.crates bodyBytes = endCopy := by
    rw [encodeEndSuperblockCopy, encoded] at ended
    exact Except.ok.inj ended
  -- The four writes append notice, start copy, region and end copy to the sink.
  have wrote := wrote_wrote (writeAll_ok _ _ _ _ _ wrote₁)
    (wrote_wrote (writeAll_ok _ _ _ _ _ wrote₂)
      (wrote_wrote (writeAll_ok _ _ _ _ _ wrote₃) (writeAll_ok _ _ _ _ _ wrote₄)))
  refine ⟨_, body, bodyBytes, notice, inner.sink, region, chunks,
    { planned := planned
      encoded := encoded
      noticed := noticed
      artifact_eq := rfl
      striped := striped
      region_length := regionSized
      stream_eq := by simpa using sealed.sink
      stream_length := streamSized
      chunked := chunked
      messages := messages
      plaintext_length := by
        rw [(plannedSuperblock_ok request body planned).2.2]
        rw [statsEq] at plaintextSized
        exact plaintextSized
      seals := wrote.seals.trans sealed.seals
      ciphered := sealed.ciphered
      tree := wrote.tree.trans sealed.tree
      sink := ?_ }⟩
  rw [wrote.sink, startEq, endEq]

/-- There are fewer chunks than chunk indices. -/
theorem written_addressable {artifact : Bytes} {before after : World} {body : SuperblockBody}
    {bodyBytes notice stream region : Bytes} {chunks : List Chunk}
    (written : Written host request plaintextReader artifact before after body bodyBytes notice
      stream region chunks) : chunks.length ≤ 2 ^ 64 := by
  have spoken : ∀ message ∈ pieces plaintextReader, 1 ≤ message.length := fun message member =>
    List.length_pos_iff.mpr (pieces_sized plaintextReader message member).1
  have few : (pieces plaintextReader).length ≤ (pieces plaintextReader).flatten.length := by
    rw [List.length_flatten]
    calc (pieces plaintextReader).length = ((pieces plaintextReader).map List.length).length := by
          rw [List.length_map]
      _ ≤ ((pieces plaintextReader).map List.length).sum :=
          List.length_le_sum_of_one_le _ (by
            intro length member
            obtain ⟨message, there, rfl⟩ := List.mem_map.mp member
            exact spoken message there)
  have total := body.payloadPlaintextBytes.toNat_lt
  rcases written.messages with same | ⟨_, single⟩
  · have count := congrArg List.length same
    rw [List.length_map] at count
    rw [written.plaintext_length] at few
    omega
  · have count := congrArg List.length single
    rw [List.length_map] at count
    simp only [List.length_singleton] at count
    omega

section ReadBack
variable {artifact : Bytes} {before after : World} {planned : SuperblockBody}
  {bodyBytes notice stream region : Bytes} {chunks : List Chunk}
  (written : Written host request plaintextReader artifact before after planned bodyBytes notice
    stream region chunks)
  (body : SuperblockBody) (decoded : decodeSuperblockBody bodyBytes = .ok body)
include written decoded

theorem written_startCopy :
    startCopyOf host.crates artifact =
      some (startCopyAt (notice ++ startFrame host.crates bodyBytes) body bodyBytes) := by
  have first : decodeStartSuperblockCopy host.crates (startFrame host.crates bodyBytes ++
      (region ++ endFrame host.crates bodyBytes)) =
        .ok ⟨body, bodyBytes, 12 + bodyBytes.length⟩ :=
    (decodeStartSuperblockCopy_ok _ _ _).mpr ⟨decoded, rfl, _, rfl⟩
  have offset : (notice ++ startFrame host.crates bodyBytes).length - (12 + bodyBytes.length) =
      notice.length := by
    rw [List.length_append, startFrame_length, Nat.add_sub_cancel]
  rw [startCopyAt, offset, startCopyOf_eq_some, written.artifact_eq, List.drop_left]
  exact ⟨findStartSuperblockOffset_intact _ _ _ _ written.noticed ⟨_, first⟩, first⟩

/-- Read back undamaged, an artifact shows the superblock its bytes spell. -/
theorem written_superblock (parsed : StoredTimelockedArtifact)
    (success : readTimelockedArtifactBytes host.crates artifact = .ok parsed) :
    parsed.superblock = body := by
  obtain ⟨chosen, choice, same, _⟩ := readTimelockedArtifactBytes_chosen _ _ _ success
  rw [written_startCopy host request plaintextReader written body decoded] at choice
  rw [same, chooseSuperblockCopy_start _ _ _ choice]
  rfl

theorem written_located (addressable : artifact.length < 2 ^ 64) :
    Located artifact (notice ++ startFrame host.crates bodyBytes) region
      (endFrame host.crates bodyBytes) body bodyBytes := by
  obtain ⟨_, _, spelling, _, spelled⟩ := decodeSuperblockBody_ok _ _ decoded
  obtain ⟨_, encoded⟩ := (encodeSuperblockBody_ok _ _).mp written.encoded
  have regionLength := (layout_lengths _ _ _ _ (encoded.symm.trans spelled)).2.2
  refine ⟨?_, addressable, by simp, ?_, endFrame_length _ _⟩
  · rw [written.artifact_eq, List.append_assoc]
  · rw [written.region_length, regionLength]

theorem written_parses (addressable : artifact.length < 2 ^ 64) :
    ∃ parsed, readTimelockedArtifactBytes host.crates artifact = .ok parsed ∧
      ParsedAs parsed (notice ++ startFrame host.crates bodyBytes) region body bodyBytes ∧
      payloadRegionOf parsed artifact = .ok region := by
  have located := written_located host request plaintextReader written body decoded addressable
  have start := written_startCopy host request plaintextReader written body decoded
  have end_ : endCopyOf host.crates artifact =
      some (endCopyAt (notice ++ startFrame host.crates bodyBytes) region body bodyBytes) := by
    rw [endCopyAt, endCopyOf_eq_some, decodeEndCopyFromFile_ok]
    refine ⟨decoded, rfl, (notice ++ startFrame host.crates bodyBytes) ++ region,
      List.length_append, ?_⟩
    rw [written.artifact_eq]
    simp only [List.append_assoc]
  exact readTimelockedArtifactBytes_located _ _ _ _ _ _ _ located (.inr start) (.inr end_)
    (.inl (by simp [start]))

end ReadBack

/-- The chunks of an artifact are a stream the reader accepts and opens. -/
theorem written_stream (aead : Aead host.crates) {artifact : Bytes} {before after : World}
    {body : SuperblockBody} {bodyBytes notice stream region : Bytes} {chunks : List Chunk}
    (written : Written host request plaintextReader artifact before after body bodyBytes notice
      stream region chunks) :
    Stream body.aeadChunkSizeBytes 0 (chunkFrames chunks) ∧
      Opened host request.keyBytes (host.crates.blake3 bodyBytes) 0 (chunkFrames chunks)
        (chunks.map Chunk.message) ∧
      plaintextTotal (chunkFrames chunks) = body.payloadPlaintextBytes.toNat ∧
      (chunks.map Chunk.message).flatten = (pieces plaintextReader).flatten := by
  have chunkSize : body.aeadChunkSizeBytes = request.aeadChunkSizeBytes := by
    rw [(plannedSuperblock_ok request body written.planned).2.2]
    rfl
  rw [chunkSize]
  obtain ⟨framed, opened, total, flat⟩ := chunkFrames_pieces host request.keyBytes
    (host.crates.blake3 bodyBytes) aead request.aeadChunkSizeBytes plaintextReader chunks
    written.chunked written.messages written.ciphered
    (written_addressable host request plaintextReader written)
  exact ⟨framed, opened, total.trans written.plaintext_length, flat⟩

end Write

def smallRequest : LockArtifactRequest where
  notice := some ""
  originalFilename := none
  iterations := 1
  modulusBits := 2048
  hardwareProfile := ""
  targetSeconds := none
  createdAtUnixSeconds := 0
  payloadPlaintextBytes := 1
  aeadChunkSizeBytes := 4
  payloadRegionParams := ⟨1, 1, 64⟩
  keyBytes := zeros 32
  timelockMaterial := ⟨35, 2, zeros 32⟩
  passwordProtection := none

def smallReader : PlaintextReader 4 := [.ok ⟨[7], by simp, by simp⟩]

def smallBody : SuperblockBody := superblockOf smallRequest 58 136

theorem plannedSuperblock_small : plannedSuperblock smallRequest = .ok smallBody := rfl

def writeSmall : Except Error (Unit × Bytes) × World :=
  capture (writeTimelockedArtifact (calmHost plainCrates) .memory smallRequest smallReader false
    none) (freshWorld .bare)

def smallArtifact : Bytes := (writeSmall.1.toOption.map Prod.snd).getD []

theorem writeSmall_ok : writeSmall = (.ok ((), smallArtifact), writeSmall.2) := by
  have returned : writeSmall.1 = .ok ((), smallArtifact) := by decide +kernel
  rw [← returned]

theorem writeTimelockedArtifact_steady {related : World → World → Prop} (steady : Steady related)
    (hears : Hears related) (host : Host) (writer : Writer) (request : LockArtifactRequest)
    (plaintextReader : PlaintextReader request.aeadChunkSizeBytes.toNat) (onProgress : Bool)
    (cancellation : Option CancellationToken) :
    Run.Keeps related
      (writeTimelockedArtifact host writer request plaintextReader onProgress cancellation) := by
  have written := writeAll_steady steady host writer
  refine steady.lift_bind fun superblock => steady.lift_bind fun digest => ?_
  have encrypted := encryptProtectedStreamWithCancel_steady steady hears host .memory
    request.keyBytes
  refine steady.bind (capture_steady steady (encrypted _ onProgress cancellation _ plaintextReader))
    fun _ => ?_
  refine steady.lift_bind fun _ => steady.lift_bind fun _ => steady.lift_bind fun region => ?_
  refine steady.lift_bind fun _ => steady.lift_bind fun notice => ?_
  refine steady.bind (written notice) fun _ => steady.lift_bind fun startCopy => ?_
  refine steady.bind (written startCopy) fun _ => steady.bind (written region) fun _ => ?_
  exact steady.lift_bind fun endCopy => written endCopy

end ArtifactWriter
