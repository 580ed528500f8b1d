import Timelocked.ReadSchedule
import Timelocked.ArtifactWriter

/-!
The length a writer predicts for its stream against the one it gets. The
prediction divides the plaintext into full chunks; the encryption makes one
chunk of every read. They agree for every plaintext when each read but the last
fills the buffer, and a writer may refuse its own stream when one does not.
-/
namespace ArtifactWriter
open ByteCodec RunRules Base Blocks PathText PasswordProtection Superblock Notice PayloadRegion
open ChunkFrame ProtectedStream

/-- Every read but the last fills the buffer. -/
def FullReads {size : Nat} (deliveries : List (Piece size)) : Prop :=
  ∀ piece ∈ deliveries.dropLast, piece.1.length = size

def predictedChunks (plaintextLen chunkSize : Nat) : Nat :=
  max 1 ((plaintextLen + chunkSize - 1) / chunkSize)

theorem predictedProtectedStreamLen_eq (payloadPlaintextBytes : UInt64) (chunkSize : UInt32)
    (positive : chunkSize ≠ 0)
    (addressable : payloadPlaintextBytes.toNat +
      57 * predictedChunks payloadPlaintextBytes.toNat chunkSize.toNat < 2 ^ 64) :
    ∃ predicted, predictedProtectedStreamLen payloadPlaintextBytes chunkSize = .ok predicted ∧
      predicted.toNat = payloadPlaintextBytes.toNat +
        57 * predictedChunks payloadPlaintextBytes.toNat chunkSize.toNat := by
  have wide : 0 < chunkSize.toNat :=
    Nat.pos_of_ne_zero fun zero => positive (UInt32.toNat_inj.mp zero)
  -- An empty plaintext is one chunk, where the quotient would say none.
  have counted : (if payloadPlaintextBytes = 0 then 1
      else (payloadPlaintextBytes.toNat + chunkSize.toNat - 1) / chunkSize.toNat) =
        predictedChunks payloadPlaintextBytes.toNat chunkSize.toNat := by
    unfold predictedChunks
    by_cases empty : payloadPlaintextBytes = 0
    · have none : (chunkSize.toNat - 1) / chunkSize.toNat = 0 :=
        Nat.div_eq_of_lt (Nat.sub_lt wide Nat.one_pos)
      simp [empty, none]
    · have some : 0 < payloadPlaintextBytes.toNat :=
        Nat.pos_of_ne_zero fun zero => empty (UInt64.toNat_inj.mp zero)
      have one : 1 ≤ (payloadPlaintextBytes.toNat + chunkSize.toNat - 1) / chunkSize.toNat :=
        (Nat.one_le_div_iff wide).mpr (by omega)
      rw [if_neg empty, Nat.max_eq_right one]
  refine ⟨payloadPlaintextBytes + UInt64.ofNat (predictedChunks payloadPlaintextBytes.toNat
    chunkSize.toNat) * 57, ?_, ?_⟩
  · unfold predictedProtectedStreamLen
    rw [rejectIf, if_neg positive, ok_bind, counted]
    rfl
  · have tag : (57 : UInt64).toNat = 57 := rfl
    rw [UInt64.toNat_add, UInt64.toNat_mul, UInt64.toNat_ofNat', tag]
    omega

def lengthMismatch : Error := .invalidFormat "protected stream length mismatch"

/-- A message that starts otherwise, whatever follows. -/
theorem longMessage_avoids (start rest : String) (first : Char)
    (begins : start.toList.head? = some first) (different : first ≠ 'p') :
    Error.invalidFormat (start ++ rest) ≠ lengthMismatch := by
  intro same
  have head := congrArg (fun text => text.toList.head?) (Error.invalidFormat.inj same)
  simp only [String.toList_append, List.head?_append, begins, Option.some_or] at head
  exact different (Option.some.inj head)

theorem layout_validate_avoids (layout : PayloadRegionLayout) :
    layout.validate ≠ .error lengthMismatch := by
  apply bind_avoids (rejectIf_avoids _ (by decide)) fun _ => ?_
  apply bind_avoids (rejectIf_avoids _ (by decide)) fun _ => ?_
  exact rejectIf_avoids _ (by decide)

theorem plannedSuperblock_avoids (request : LockArtifactRequest) :
    plannedSuperblock request ≠ .error lengthMismatch := by
  apply bind_avoids
  · exact bind_avoids (rejectIf_avoids _ (by decide)) fun _ => ok_avoids _ _
  · intro _
    apply bind_avoids
    · exact bind_avoids (layout_validate_avoids _) fun _ => ok_avoids _ _
    · exact fun _ => ok_avoids _ _

theorem metadata_validate_avoids (metadata : PasswordProtectionMetadata) :
    metadata.validate ≠ .error lengthMismatch := by
  apply bind_avoids (rejectIf_avoids _ (by decide)) fun _ => ?_
  apply bind_avoids (rejectIf_avoids _ (by decide)) fun _ => ?_
  apply bind_avoids (rejectIf_avoids _ (by decide)) fun _ => ?_
  apply bind_avoids (rejectIf_avoids _ (by decide)) fun _ => ?_
  apply mapError_avoids
  intro cause
  exact longMessage_avoids "invalid password protection parameters: " _ 'i' rfl (by decide)

theorem validate_avoids (body : SuperblockBody) : body.validate ≠ .error lengthMismatch := by
  apply bind_avoids (rejectIf_avoids _ ?_) fun _ => ?_
  · intro same
    cases same
  · apply bind_avoids
    · cases body.passwordProtection with
      | none => exact rejectIf_avoids _ (by decide)
      | some metadata =>
          simp only [validatePassword]
          split
          · exact fun same => absurd (Except.error.inj same) (by decide)
          · exact metadata_validate_avoids metadata
    · intro _
      iterate 9 apply bind_avoids (rejectIf_avoids _ (by decide)) fun _ => ?_
      exact rejectIf_avoids _ (by decide)

theorem encodeSuperblockBody_avoids (body : SuperblockBody) :
    encodeSuperblockBody body ≠ .error lengthMismatch :=
  bind_avoids (validate_avoids body) fun _ => ok_avoids _ _

theorem encodePayloadRegion_avoids (crates : Crates) (stream : Bytes)
    (layout : PayloadRegionLayout) :
    encodePayloadRegion crates stream layout ≠ .error lengthMismatch := by
  apply bind_avoids (layout_validate_avoids layout) fun _ => ?_
  apply bind_avoids _ fun _ => ok_avoids _ _
  apply mapM_avoids
  intro stripeBytes
  apply bind_avoids _ fun _ => ok_avoids _ _
  apply bind_avoids
  · apply mapError_avoids
    intro cause
    cases cause with
    | tooManyShards | tooFewShardsPresent => decide
    | other message =>
        exact longMessage_avoids "invalid Reed-Solomon parameters: " message 'i' rfl (by decide)
  · intro _
    apply mapError_avoids
    intro cause
    cases cause with
    | tooManyShards | tooFewShardsPresent => decide
    | other message =>
        exact longMessage_avoids "Reed-Solomon encode failed: " message 'R' rfl (by decide)

section Encrypt
variable (host : Host) (writer : Writer) (keyBytes superblockDigest : Block 32)
  (totalPlaintext : Nat) (onProgress : Bool) (cancellation : Option CancellationToken)

theorem writeAll_avoids (bytes : Bytes) :
    Run.Avoids lengthMismatch (writeAll host writer bytes) := by
  intro before after failed
  cases writer with
  | memory => cases failed
  | tempFile =>
      rcases (Run.bind_eq_error _ _ _ _ _).mp failed with failed | ⟨_, _, _, failed⟩
      · unfold call at failed
        dsimp only at failed
        split at failed <;> cases failed
      · cases failed

theorem ensureNotCancelled_avoids : Run.Avoids lengthMismatch (ensureNotCancelled cancellation) := by
  intro before after failed
  cases cancellation with
  | none => cases failed
  | some isCancelled =>
      unfold ensureNotCancelled at failed
      dsimp only at failed
      split at failed <;> cases failed

theorem emitProgress_avoids (phase : String) (current total : Nat) :
    Run.Avoids lengthMismatch (emitProgress onProgress phase current total) := by
  intro before after failed
  obtain ⟨_, reported, _⟩ := emitProgress_ok onProgress phase current total before
  rw [reported] at failed
  cases failed

theorem sealChunk_avoids (index : Nat) (plaintext : Bytes) (isLast : Bool) :
    Run.Avoids lengthMismatch
      (sealChunk host writer keyBytes superblockDigest index plaintext isLast) := by
  apply Run.avoids_bind
  · intro before after failed
    cases failed
  · intro nonce
    split
    · exact Run.avoids_fail (by decide)
    · apply Run.avoids_bind
      · intro before after failed
        cases failed
      · intro _
        have written := writeAll_avoids host writer
        apply Run.avoids_bind (Run.avoids_lift (rejectIf_avoids _ (by decide))) fun _ => ?_
        iterate 5 apply Run.avoids_bind (written _) fun _ => ?_
        exact written _

theorem encryptLoop_avoids {size : Nat} (reader : PlaintextReader size) (current : Piece size)
    (index written : Nat) :
    Run.Avoids lengthMismatch (encryptLoop host writer keyBytes superblockDigest totalPlaintext
      onProgress cancellation reader current index written) := by
  induction reader generalizing current index written with
  | nil =>
      apply Run.avoids_bind (ensureNotCancelled_avoids cancellation) fun _ => ?_
      apply Run.avoids_bind (sealChunk_avoids host writer keyBytes superblockDigest _ _ _) fun _ => ?_
      apply Run.avoids_bind (emitProgress_avoids onProgress _ _ _) fun _ => ?_
      exact Run.avoids_pure _
  | cons read rest ih =>
      cases read with
      | error kind =>
          apply Run.avoids_bind (ensureNotCancelled_avoids cancellation) fun _ => ?_
          exact Run.avoids_fail (fun same => by cases same)
      | ok next =>
          apply Run.avoids_bind (ensureNotCancelled_avoids cancellation) fun _ => ?_
          apply Run.avoids_bind (sealChunk_avoids host writer keyBytes superblockDigest _ _ _)
            fun _ => ?_
          apply Run.avoids_bind (emitProgress_avoids onProgress _ _ _) fun _ => ?_
          exact ih _ _ _

theorem encryptProtectedStreamWithCancel_avoids {chunkSize : Nat}
    (reader : PlaintextReader chunkSize) :
    Run.Avoids lengthMismatch (encryptProtectedStreamWithCancel host writer keyBytes
      superblockDigest totalPlaintext onProgress cancellation reader) := by
  apply Run.avoids_bind (Run.avoids_lift (rejectIf_avoids _ (by decide))) fun _ => ?_
  apply Run.avoids_bind (ensureNotCancelled_avoids cancellation) fun _ => ?_
  split
  · apply Run.avoids_bind (sealChunk_avoids host writer keyBytes superblockDigest _ _ _) fun _ => ?_
    apply Run.avoids_bind (emitProgress_avoids onProgress _ _ _) fun _ => ?_
    exact Run.avoids_pure _
  · exact Run.avoids_fail (fun same => by cases same)
  · exact encryptLoop_avoids host writer keyBytes superblockDigest totalPlaintext onProgress
      cancellation _ _ _ _

theorem capture_avoids {α : Type} {run : Op α} (avoids : Run.Avoids lengthMismatch run) :
    Run.Avoids lengthMismatch (capture run) := by
  intro before after failed
  unfold capture at failed
  rcases outcome : run { before with sink := [] } with ⟨reason | value, inner⟩
  · rw [outcome] at failed
    cases failed
    exact avoids _ _ outcome
  · rw [outcome] at failed
    cases failed

end Encrypt

/-- A frame takes 41 bytes and a tag of 16 beside its message. -/
theorem chunkFrames_bytes (host : Host) (keyBytes superblockDigest : Block 32)
    (aead : Aead host.crates) (index : Nat) (chunks : List Chunk)
    (ciphered : ∀ sealing ∈ chunkSeals superblockDigest index chunks,
      SealedBy host keyBytes sealing) :
    (streamBytes index (chunkFrames chunks)).length =
      (chunks.map Chunk.message).flatten.length + 57 * chunks.length := by
  have single (index : Nat) (chunk : Chunk) (isLast : Bool)
      (sealed : SealedBy host keyBytes (chunk.sealing superblockDigest index isLast)) :
      ((chunk.frame isLast).bytes (UInt64.ofNat index)).length = chunk.message.length + 57 := by
    have tagged : chunk.ciphertext.length = chunk.message.length + 16 :=
      (aead.opens _ _ _ _ _ sealed.1).2
    simp only [StoredFrame.bytes, Chunk.frame, List.length_append, leBytes_length, Word.width,
      chunk.nonce.2, tagged]
    omega
  -- The last chunk is flagged apart, so one chunk is the base of the induction.
  induction chunks generalizing index with
  | nil => rfl
  | cons chunk rest ih =>
      cases rest with
      | nil =>
          have one := single index chunk true (ciphered _ (by simp [chunkSeals]))
          simp [chunkFrames, streamBytes, one]
      | cons second others =>
          have one := single index chunk false (ciphered _ (by simp [chunkSeals]))
          have later := ih (index + 1) fun sealing member =>
            ciphered sealing (List.mem_cons_of_mem _ member)
          rw [chunkFrames, streamBytes, List.length_append, one, later]
          · simp only [List.map_cons, List.flatten_cons, List.length_append, List.length_cons]
            omega
          · exact List.cons_ne_nil _ _

/-- The chunks are those of the plaintext, cut into full pieces. -/
structure Boundaries (chunks : List Chunk) (plaintext : Bytes) (chunkSize : UInt32) : Prop where
  count : chunks.length = predictedChunks plaintext.length chunkSize.toNat
  full : ∀ chunk ∈ chunks.dropLast, chunk.message.length = chunkSize.toNat
  length : ∃ predicted, predictedProtectedStreamLen (UInt64.ofNat plaintext.length) chunkSize =
      .ok predicted ∧ (streamBytes 0 (chunkFrames chunks)).length = predicted.toNat

theorem fullReads_count {size : Nat} (deliveries : List (Piece size)) (positive : 0 < size)
    (full : FullReads deliveries) :
    max 1 deliveries.length = predictedChunks (delivered deliveries).length size := by
  unfold predictedChunks
  cases deliveries with
  | nil =>
      have none : (size - 1) / size = 0 := Nat.div_eq_of_lt (Nat.sub_lt positive Nat.one_pos)
      simp [delivered, none]
  | cons first rest =>
      have count := full_count size ((first :: rest).map fun piece => piece.1) (by simp)
        (delivered_sized (first :: rest)) (by
          intro block member
          rw [← List.map_dropLast] at member
          obtain ⟨piece, there, rfl⟩ := List.mem_map.mp member
          exact full piece there)
      rw [List.length_map] at count
      rw [count, delivered]

section Write
variable (request : LockArtifactRequest)
  (deliveries : List (Piece request.aeadChunkSizeBytes.toNat))

structure Encryption (host : Host) (keyBytes digest : Block 32) (before after : World)
    (stats : ChunkEncryptionStats) (chunks : List Chunk) : Prop where
  chunked : chunks ≠ []
  messages : chunks.map Chunk.message = deliveries.map (fun piece => piece.1) ∨
    (deliveries = [] ∧ chunks.map Chunk.message = [[]])
  sealed : Sealed host keyBytes digest 0 chunks before after
  stats_eq : stats = ⟨chunks.length, (delivered deliveries).length⟩

theorem encryption_of_success (host : Host) (writer : Writer) (keyBytes digest : Block 32)
    (totalPlaintext : Nat) (onProgress : Bool) (cancellation : Option CancellationToken)
    (stats : ChunkEncryptionStats) (before after : World)
    (success : encryptProtectedStreamWithCancel host writer keyBytes digest totalPlaintext
      onProgress cancellation (delivering deliveries) before = (.ok stats, after)) :
    ∃ chunks, Encryption request deliveries host keyBytes digest before after stats chunks ∧
      request.aeadChunkSizeBytes ≠ 0 := by
  obtain ⟨chunks, chunked, messages, sealed, total⟩ :=
    encryptProtectedStreamWithCancel_ok host writer keyBytes digest totalPlaintext onProgress
      cancellation (delivering deliveries) stats before after success
  rw [pieces_delivering] at messages total
  refine ⟨chunks, ⟨chunked, messages.imp_right ?_, sealed, total⟩, ?_⟩
  · rintro ⟨empty, single⟩
    exact ⟨List.map_eq_nil_iff.mp empty, single⟩
  · unfold encryptProtectedStreamWithCancel at success
    obtain ⟨_, accepted, _⟩ := (Run.lift_bind_eq_ok _ _ _ _ _).mp success
    rw [rejectIf_eq_ok] at accepted
    exact fun zero => accepted (by rw [zero]; rfl)

section Sealed
variable {request deliveries} {host : Host} {keyBytes digest : Block 32} {before after : World}
  {stats : ChunkEncryptionStats} {chunks : List Chunk}
  (encryption : Encryption request deliveries host keyBytes digest before after stats chunks)
include encryption

theorem encryption_count : chunks.length = max 1 deliveries.length := by
  have count : chunks.length = (chunks.map Chunk.message).length := (List.length_map _).symm
  have some := List.length_pos_iff.mpr encryption.chunked
  rcases encryption.messages with read | ⟨empty, single⟩
  · rw [read, List.length_map] at count
    omega
  · rw [count, single, empty]
    rfl

theorem encryption_length (aead : Aead host.crates) :
    (streamBytes 0 (chunkFrames chunks)).length =
      (delivered deliveries).length + 57 * max 1 deliveries.length := by
  rw [chunkFrames_bytes host keyBytes digest aead 0 chunks encryption.sealed.ciphered,
    encryption_count encryption]
  congr 1
  rcases encryption.messages with read | ⟨empty, single⟩
  · rw [read, delivered]
  · rw [single, empty]
    rfl

theorem encryption_full :
    (∀ chunk ∈ chunks.dropLast, chunk.message.length = request.aeadChunkSizeBytes.toNat) ↔
      FullReads deliveries := by
  have messages : (∀ chunk ∈ chunks.dropLast,
      chunk.message.length = request.aeadChunkSizeBytes.toNat) ↔
        ∀ message ∈ (chunks.map Chunk.message).dropLast,
          message.length = request.aeadChunkSizeBytes.toNat := by
    rw [← List.map_dropLast, List.forall_mem_map]
  rw [messages]
  rcases encryption.messages with read | ⟨empty, single⟩
  · rw [read, ← List.map_dropLast, List.forall_mem_map]
    rfl
  · rw [single, empty]
    simp [FullReads]

theorem boundaries_iff (aead : Aead host.crates) (positive : request.aeadChunkSizeBytes ≠ 0)
    (exact : (delivered deliveries).length = request.payloadPlaintextBytes.toNat)
    (addressable : (delivered deliveries).length + 57 * predictedChunks
      (delivered deliveries).length request.aeadChunkSizeBytes.toNat < 2 ^ 64) :
    Boundaries chunks (delivered deliveries) request.aeadChunkSizeBytes ↔
      FullReads deliveries := by
  constructor
  · intro boundaries
    exact (encryption_full encryption).mp boundaries.full
  · intro full
    have wide : 0 < request.aeadChunkSizeBytes.toNat :=
      Nat.pos_of_ne_zero fun zero => positive (UInt32.toNat_inj.mp zero)
    have count := fullReads_count deliveries wide full
    have plaintext : UInt64.ofNat (delivered deliveries).length = request.payloadPlaintextBytes := by
      rw [exact]
      exact UInt64.ofNat_toNat
    rw [exact] at addressable
    obtain ⟨predicted, announced, length⟩ := predictedProtectedStreamLen_eq _ _ positive addressable
    refine ⟨(encryption_count encryption).trans count, (encryption_full encryption).mpr full,
      predicted, ?_, ?_⟩
    · rw [plaintext, announced]
    · rw [encryption_length encryption aead, length, count, exact]

end Sealed

/-- No writer refuses the stream it made of these reads for its length. -/
def NeverRefused : Prop :=
  ∀ host writer onProgress cancellation before, Aead host.crates →
    (writeTimelockedArtifact host writer request (delivering deliveries) onProgress cancellation
      before).1 ≠ .error lengthMismatch

/-- A writer that refuses its stream for its length has made the stream. -/
theorem writeTimelockedArtifact_refused (host : Host) (writer : Writer) (onProgress : Bool)
    (cancellation : Option CancellationToken) (before after : World)
    (reader : PlaintextReader request.aeadChunkSizeBytes.toNat)
    (refused : writeTimelockedArtifact host writer request reader onProgress cancellation before =
      (.error lengthMismatch, after)) :
    ∃ body digest stats inner, plannedSuperblock request = .ok body ∧
      encryptProtectedStreamWithCancel host .memory request.keyBytes digest
        request.payloadPlaintextBytes.toNat onProgress cancellation reader
        { before with sink := [] } = (.ok stats, inner) ∧
      inner.sink.length ≠ body.protectedStreamLen.toNat := by
  have written := writeAll_avoids host writer
  unfold writeTimelockedArtifact at refused
  rcases (Run.lift_bind_eq_error _ _ _ _ _).mp refused with ⟨failed, _⟩ | ⟨body, planned, r₁⟩
  · exact absurd failed (plannedSuperblock_avoids request)
  rcases (Run.lift_bind_eq_error _ _ _ _ _).mp r₁ with ⟨failed, _⟩ | ⟨digest, _, r₂⟩
  · exact absurd failed (bind_avoids (encodeSuperblockBody_avoids body) fun _ => ok_avoids _ _)
  rcases (Run.bind_eq_error _ _ _ _ _).mp r₂ with failed | ⟨⟨stats, stream⟩, w₁, captured, r₃⟩
  · exact absurd failed (capture_avoids (encryptProtectedStreamWithCancel_avoids host .memory _ _ _
      onProgress cancellation reader) _ _)
  obtain ⟨inner, encrypted, rfl, rfl⟩ := (capture_eq_ok _ _ _ _ _).mp captured
  rcases (Run.lift_bind_eq_error _ _ _ _ _).mp r₃ with ⟨failed, _⟩ | ⟨_, _, r₄⟩
  · exact absurd failed (rejectIf_avoids _ (by decide))
  by_cases same : inner.sink.length = body.protectedStreamLen.toNat
  · -- past the comparison nothing fails with its message
    exfalso
    rw [Run.lift_bind_of_ok ((rejectIf_eq_ok _ _ ()).mpr (not_not.mpr same))] at r₄
    revert r₄
    apply Run.avoids_bind (Run.avoids_lift (encodePayloadRegion_avoids _ _ _)) fun _ => ?_
    apply Run.avoids_bind (Run.avoids_lift (rejectIf_avoids _ (by decide))) fun _ => ?_
    apply Run.avoids_bind (Run.avoids_lift (bind_avoids (rejectIf_avoids _ (by decide)) fun _ =>
      ok_avoids _ _)) fun _ => ?_
    apply Run.avoids_bind (written _) fun _ => ?_
    apply Run.avoids_bind (Run.avoids_lift (bind_avoids (encodeSuperblockBody_avoids _) fun _ =>
      ok_avoids _ _)) fun _ => ?_
    apply Run.avoids_bind (written _) fun _ => ?_
    apply Run.avoids_bind (written _) fun _ => ?_
    apply Run.avoids_bind (Run.avoids_lift (bind_avoids (encodeSuperblockBody_avoids _) fun _ =>
      ok_avoids _ _)) fun _ => ?_
    exact written _
  · exact ⟨body, digest, stats, inner, planned, encrypted, same⟩

theorem fullReads_neverRefused (full : FullReads deliveries)
    (exact : (delivered deliveries).length = request.payloadPlaintextBytes.toNat)
    (addressable : (delivered deliveries).length + 57 * predictedChunks
      (delivered deliveries).length request.aeadChunkSizeBytes.toNat < 2 ^ 64) :
    NeverRefused request deliveries := by
  intro host writer onProgress cancellation before aead refused
  obtain ⟨body, digest, stats, inner, planned, encrypted, different⟩ :=
    writeTimelockedArtifact_refused request host writer onProgress cancellation before _ _
      (Prod.ext refused rfl)
  obtain ⟨chunks, encryption, positive⟩ := encryption_of_success request deliveries host .memory _
    _ _ _ _ _ _ _ encrypted
  obtain ⟨predicted, announced, length⟩ :=
    ((boundaries_iff encryption aead positive exact addressable).mpr full).length
  have stored : inner.sink = streamBytes 0 (chunkFrames chunks) := by
    simpa using encryption.sealed.sink
  have plaintext : UInt64.ofNat (delivered deliveries).length = request.payloadPlaintextBytes := by
    rw [exact]
    exact UInt64.ofNat_toNat
  rw [plaintext, (plannedSuperblock_ok request body planned).1] at announced
  cases announced
  rw [stored] at different
  exact different length

/-- The chunks of an encryption are those of the plaintext, and no writer
refuses its stream, exactly when every read but the last fills the buffer. -/
theorem chunkBoundaries (host : Host) (writer : Writer) (keyBytes digest : Block 32)
    (totalPlaintext : Nat) (onProgress : Bool) (cancellation : Option CancellationToken)
    (aead : Aead host.crates)
    (exact : (delivered deliveries).length = request.payloadPlaintextBytes.toNat)
    (addressable : (delivered deliveries).length + 57 * predictedChunks
      (delivered deliveries).length request.aeadChunkSizeBytes.toNat < 2 ^ 64)
    (stats : ChunkEncryptionStats) (before after : World)
    (success : encryptProtectedStreamWithCancel host writer keyBytes digest totalPlaintext
      onProgress cancellation (delivering deliveries) before = (.ok stats, after)) :
    ∃ chunks, Encryption request deliveries host keyBytes digest before after stats chunks ∧
      ((Boundaries chunks (delivered deliveries) request.aeadChunkSizeBytes ∧
        NeverRefused request deliveries) ↔ FullReads deliveries) := by
  obtain ⟨chunks, encryption, positive⟩ := encryption_of_success request deliveries host writer
    keyBytes digest totalPlaintext onProgress cancellation stats before after success
  have boundaries := boundaries_iff encryption aead positive exact addressable
  refine ⟨chunks, encryption, ?_⟩
  constructor
  · rintro ⟨cut, _⟩
    exact boundaries.mp cut
  · intro full
    exact ⟨boundaries.mpr full, fullReads_neverRefused request deliveries full exact addressable⟩

end Write

def tenRequest : LockArtifactRequest := { smallRequest with payloadPlaintextBytes := 10 }

def threeReads : List (Piece 4) :=
  [⟨[1, 2, 3, 4], by simp, by simp⟩, ⟨[5, 6, 7, 8], by simp, by simp⟩, ⟨[9, 10], by simp, by simp⟩]

def encryptTen : Except Error ChunkEncryptionStats × World :=
  encryptProtectedStreamWithCancel (calmHost plainCrates) .memory (zeros 32) (zeros 32) 10 false
    none (delivering threeReads) (freshWorld .bare)

theorem encryptTen_ok : encryptTen = (.ok ⟨3, 10⟩, encryptTen.2) := by
  have returned : encryptTen.1 = .ok ⟨3, 10⟩ := by decide +kernel
  rw [← returned]

theorem chunkBoundaries_ten :
    ∃ chunks, Encryption tenRequest threeReads (calmHost plainCrates) (zeros 32) (zeros 32)
        (freshWorld .bare) encryptTen.2 ⟨3, 10⟩ chunks ∧
      Boundaries chunks (delivered threeReads) tenRequest.aeadChunkSizeBytes ∧
        NeverRefused tenRequest threeReads := by
  obtain ⟨chunks, encryption, boundaries⟩ := chunkBoundaries tenRequest threeReads
    (calmHost plainCrates) .memory (zeros 32) (zeros 32) 10 false none plainCrates_aead rfl
    (by decide) ⟨3, 10⟩ (freshWorld .bare) encryptTen.2 encryptTen_ok
  have full : FullReads threeReads := by
    unfold FullReads
    decide
  exact ⟨chunks, encryption, boundaries.mpr full⟩

def pairRequest : LockArtifactRequest := { smallRequest with payloadPlaintextBytes := 2 }

def oneRead : List (Piece 4) := [⟨[1, 2], by simp, by simp⟩]

def twoReads : List (Piece 4) := [firstByte, ⟨[2], by simp, by simp⟩]

def encryptPair (deliveries : List (Piece 4)) : Except Error ChunkEncryptionStats × World :=
  encryptProtectedStreamWithCancel (calmHost plainCrates) .memory (zeros 32) (zeros 32) 2 false
    none (delivering deliveries) (freshWorld .bare)

/-- Two bytes in two reads: two chunks instead of one, and the writer refuses
the stream. -/
theorem twoReads_refused :
    delivered twoReads = delivered oneRead ∧
      (encryptPair twoReads).1 = .ok ⟨2, 2⟩ ∧
      predictedChunks (delivered twoReads).length 4 = 1 ∧
      (writeTimelockedArtifact (calmHost plainCrates) .memory pairRequest (delivering twoReads)
        false none (freshWorld .bare)).1 = .error lengthMismatch := by
  decide +kernel

end ArtifactWriter
