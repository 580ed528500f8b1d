import Timelocked.ArtifactWriter
import Timelocked.Recovery

/-!
Exact recovery or explicit failure. Whoever edits an artifact controls every
byte of it, but a chunk opens only under the associated data it was sealed
with: the superblock's digest, its index, its length and whether it is the
last. The digest fixes the superblock, and the indices and flags then fix the
chunks one by one, so a stream that opens to its end is the stream written.
-/
namespace ExactRecovery
open ByteCodec RunRules Base ChunkFrame Superblock ProtectedStream ArtifactReader ArtifactWriter
  Recovery

theorem buildChunkAad_injective (digest digest' : Block 32) (index index' : UInt64)
    (plaintextLen plaintextLen' : UInt32) (isLast isLast' : Bool)
    (same : buildChunkAad digest index plaintextLen isLast =
      buildChunkAad digest' index' plaintextLen' isLast') :
    digest = digest' ∧ index = index' ∧ isLast = isLast' := by
  simp only [buildChunkAad, List.append_assoc] at same
  obtain ⟨_, s₁⟩ := List.append_inj same rfl
  obtain ⟨digests, s₂⟩ := List.append_inj s₁ (by rw [digest.2, digest'.2])
  obtain ⟨indices, s₃⟩ := List.append_inj s₂ (by rw [leBytes_length, leBytes_length])
  obtain ⟨_, flags⟩ := List.append_inj s₃ (by rw [leBytes_length, leBytes_length])
  refine ⟨Subtype.ext digests, leBytes_injective indices, ?_⟩
  cases isLast <;> cases isLast' <;> simp [flagByte] at flags ⊢

/-- A sealed chunk is sealed at its position, as the last one or not. -/
theorem mem_chunkSeals (digest : Block 32) (index : Nat) (chunks : List Chunk) (sealing : Seal)
    (member : sealing ∈ chunkSeals digest index chunks) :
    ∃ front chunk later, chunks = front ++ chunk :: later ∧
      sealing = chunk.sealing digest (index + front.length) later.isEmpty := by
  induction chunks generalizing index with
  | nil => cases member
  | cons chunk rest ih =>
      cases rest with
      | nil =>
          obtain rfl := List.mem_singleton.mp member
          exact ⟨[], chunk, [], rfl, rfl⟩
      | cons second others =>
          rcases List.mem_cons.mp member with head | tail
          · exact ⟨[], chunk, second :: others, rfl, head⟩
          · obtain ⟨front, found, later, split, same⟩ := ih (index + 1) tail
            refine ⟨chunk :: front, found, later, by rw [split]; rfl, ?_⟩
            rw [same, List.length_cons]
            congr 1
            omega

/-- The cipher opens only what was sealed, and to its message. -/
def OpensOnly (crates : Crates) (keyBytes : Block 32) (sealings : List Seal) : Prop :=
  ∀ nonce aad ciphertext message, crates.decrypt keyBytes nonce aad ciphertext = some message →
    (⟨nonce, aad, message, ciphertext⟩ : Seal) ∈ sealings

/-- No other byte string has the digest of this one. -/
def CollisionFree (crates : Crates) (bytes : Bytes) : Prop :=
  ∀ other, crates.blake3 other = crates.blake3 bytes → other = bytes

def sealsSince (before after : World) : List Seal :=
  after.seals.take (after.seals.length - before.seals.length)

theorem sealsSince_eq (before after : World) (new : List Seal)
    (seals : after.seals = new ++ before.seals) : sealsSince before after = new := by
  rw [sealsSince, seals, List.length_append, Nat.add_sub_cancel]
  exact List.take_left

section Stream
variable (host : Host) (keyBytes digest digest' : Block 32) (chunks : List Chunk)

/-- A frame that opens is the chunk sealed at its index. -/
theorem openChunk_sealed (chunkSize : UInt32) (index : Nat) (frame : StoredFrame)
    (message : Bytes) (addressable : chunks.length ≤ 2 ^ 64)
    (authentic : OpensOnly host.crates keyBytes (chunkSeals digest 0 chunks))
    (acceptable : Acceptable chunkSize index frame)
    (opened : openChunk host keyBytes digest' (frame.header (UInt64.ofNat index))
      frame.ciphertext = .ok message) :
    digest' = digest ∧ ∃ front chunk later, chunks = front ++ chunk :: later ∧
      front.length = index ∧ message = chunk.message ∧
      (frame.terminal ≠ 0 ↔ later = []) := by
  obtain ⟨deciphered, _⟩ := (openChunk_ok _ _ _ _ _ _).mp opened
  obtain ⟨front, chunk, later, split, same⟩ :=
    mem_chunkSeals digest 0 chunks _ (authentic _ _ _ _ deciphered)
  obtain ⟨_, aads, messages, _⟩ := Seal.mk.inj same
  obtain ⟨digests, indices, flags⟩ := buildChunkAad_injective _ _ _ _ _ _ _ _ aads
  have below : front.length < 2 ^ 64 := by
    rw [split, List.length_append, List.length_cons] at addressable
    omega
  have indexed := congrArg UInt64.toNat indices
  simp only [StoredFrame.header, UInt64.toNat_ofNat'] at indexed
  rw [Nat.mod_eq_of_lt acceptable.indexed, Nat.zero_add, Nat.mod_eq_of_lt below] at indexed
  refine ⟨digests, front, chunk, later, split, indexed.symm, messages, ?_⟩
  have terminal : decide (frame.terminal ≠ 0) = later.isEmpty := flags
  rw [← List.isEmpty_iff, ← terminal, decide_eq_true_iff]

/-- Frame by frame, a stream that opens to its end holds the chunks sealed. -/
theorem opened_messages (chunkSize : UInt32) (addressable : chunks.length ≤ 2 ^ 64)
    (authentic : OpensOnly host.crates keyBytes (chunkSeals digest 0 chunks))
    (index : Nat) (frames : List StoredFrame) (messages : List Bytes) (front later : List Chunk)
    (stream : Stream chunkSize index frames)
    (opened : Opened host keyBytes digest' index frames messages)
    (split : chunks = front ++ later) (here : front.length = index) :
    messages = later.map Chunk.message := by
  -- Induction on the frames; `front` grows by the chunk the opened frame was sealed from.
  induction stream generalizing messages front later with
  | @last index frame acceptable terminal =>
      cases opened with
      | @cons _ _ _ message messages opened ended =>
          cases ended
          obtain ⟨_, front', chunk, rest, split', here', same, last⟩ :=
            openChunk_sealed host keyBytes digest digest' chunks chunkSize index frame message
              addressable authentic acceptable opened
          obtain ⟨_, rfl⟩ := List.append_inj (split.symm.trans split') (here.trans here'.symm)
          -- Only the last chunk was sealed as terminal, so nothing is left after it.
          rw [last.mp terminal, same]
          rfl
  | @more index frame frames acceptable open_ _ ih =>
      cases opened with
      | @cons _ _ _ message messages opened laterOpened =>
          obtain ⟨_, front', chunk, rest, split', here', same, _⟩ :=
            openChunk_sealed host keyBytes digest digest' chunks chunkSize index frame message
              addressable authentic acceptable opened
          obtain ⟨_, rfl⟩ := List.append_inj (split.symm.trans split') (here.trans here'.symm)
          have tail := ih messages (front ++ [chunk]) rest laterOpened (by simpa using split)
            (by simp [here])
          rw [tail, same, List.map_cons]

end Stream

/-- The first frame that opens shows whose digest was meant. -/
theorem opened_digest (host : Host) (keyBytes digest digest' : Block 32) (chunks : List Chunk)
    (chunkSize : UInt32) (addressable : chunks.length ≤ 2 ^ 64)
    (authentic : OpensOnly host.crates keyBytes (chunkSeals digest 0 chunks))
    (frames : List StoredFrame) (messages : List Bytes) (stream : Stream chunkSize 0 frames)
    (opened : Opened host keyBytes digest' 0 frames messages) : digest' = digest := by
  have first {frame : StoredFrame} {message : Bytes} (acceptable : Acceptable chunkSize 0 frame)
      (opened : openChunk host keyBytes digest' (frame.header (UInt64.ofNat 0))
        frame.ciphertext = .ok message) : digest' = digest :=
    (openChunk_sealed host keyBytes digest digest' chunks chunkSize 0 frame message addressable
      authentic acceptable opened).1
  cases stream with
  | last acceptable _ =>
      cases opened with
      | cons opened _ => exact first acceptable opened
  | more acceptable _ _ =>
      cases opened with
      | cons opened _ => exact first acceptable opened

section Recover
variable (host : Host) (writer : Writer) (request : LockArtifactRequest)
  (plaintextReader : PlaintextReader request.aeadChunkSizeBytes.toNat) (onProgress : Bool)
  (cancellation : Option CancellationToken)

/-- Whatever bytes are presented as the artifact: if they parse, reconstruct and
decrypt under the key it was locked with, the plaintext locked is what comes
out, and the superblock is the artifact's own. -/
theorem recovered_exactly (before after : World) (artifact : Bytes)
    (written : capture (writeTimelockedArtifact host writer request plaintextReader onProgress
      cancellation) before = (.ok ((), artifact), after))
    (authentic : OpensOnly host.crates request.keyBytes (sealsSince before after))
    (collisionFree : ∀ body bytes, plannedSuperblock request = .ok body →
      encodeSuperblockBody body = .ok bytes → CollisionFree host.crates bytes)
    (reader : Host) (sameCrates : reader.crates = host.crates) (output : Writer)
    (reporting : Bool) (token : Option CancellationToken) (presented : Bytes) (start stop : World)
    (parsed : StoredTimelockedArtifact) (stats : ChunkDecryptionStats) (recovered : Bytes)
    (success : capture (recoverFromBytes reader output request.keyBytes reporting token presented)
      start = (.ok ((parsed, stats), recovered), stop)) :
    recovered = (pieces plaintextReader).flatten ∧
      (∀ original, readTimelockedArtifactBytes host.crates artifact = .ok original →
        parsed.superblock = original.superblock) ∧
      (artifact.length < 2 ^ 64 →
        ∃ original, readTimelockedArtifactBytes host.crates artifact = .ok original) := by
  obtain ⟨written', writing, collected, rfl⟩ := (capture_eq_ok _ _ _ _ _).mp written
  obtain ⟨artifact', body, bodyBytes, notice, stream, region, chunks, parts⟩ :=
    writeTimelockedArtifact_ok host writer request plaintextReader onProgress cancellation _ _
      writing
  obtain rfl : artifact = artifact' := collected.trans parts.sink
  have sealings : sealsSince before { written' with sink := before.sink } =
      (chunkSeals (host.crates.blake3 bodyBytes) 0 chunks).reverse :=
    sealsSince_eq _ _ _ parts.seals
  have authentic : OpensOnly reader.crates request.keyBytes
      (chunkSeals (host.crates.blake3 bodyBytes) 0 chunks) := by
    intro nonce aad ciphertext message opened
    rw [sameCrates] at opened
    have member := authentic nonce aad ciphertext message opened
    rwa [sealings, List.mem_reverse] at member
  have addressable := written_addressable host request plaintextReader parts
  obtain ⟨recovering, ran, rfl, _⟩ := (capture_eq_ok _ _ _ _ _).mp success
  obtain ⟨payloadRegion, protectedStream, read, _, _, decrypted⟩ :=
    (recoverFromBytes_ok _ _ _ _ _ _ _ _ _ _).mp ran
  obtain ⟨parsedBytes, frames, messages, encoded, framed, opened, _, _, _, wrote⟩ :=
    decryptRecovered_ok _ _ _ _ _ _ _ _ _ _ decrypted
  -- The digest in the first chunk makes the parsed superblock the written one.
  have digests := opened_digest reader request.keyBytes _ _ chunks _ addressable authentic _ _
    framed opened
  rw [sameCrates] at digests
  have same : parsedBytes = bodyBytes :=
    collisionFree body bodyBytes parts.planned parts.encoded parsedBytes digests
  obtain ⟨valid, sized⟩ := decoded_wellSized _ _ (readTimelockedArtifactBytes_decoded _ _ _ read)
  obtain ⟨_, spelled⟩ := (encodeSuperblockBody_ok _ _).mp encoded
  have decoded : decodeSuperblockBody bodyBytes = .ok parsed.superblock := by
    rw [← same, spelled]
    exact decodeSuperblockBody_encode _ valid sized
  have messagesEq := opened_messages reader request.keyBytes _ _ chunks _ addressable authentic 0
    frames messages [] chunks framed opened rfl rfl
  refine ⟨?_, ?_, ?_⟩
  · rw [wrote.sink, List.nil_append, messagesEq]
    rcases parts.messages with same | ⟨empty, single⟩
    · rw [same]
    · rw [single, empty]
      rfl
  · intro original shown
    exact (written_superblock host request plaintextReader parts _ decoded
      original shown).symm
  · intro fits
    obtain ⟨original, shown, _⟩ :=
      written_parses host request plaintextReader parts _ decoded fits
    exact ⟨original, shown⟩

end Recover

def knownSeal : Seal :=
  Chunk.sealing ⟨zeros 24, [7], 7 :: List.replicate 16 0⟩ (zeros 32) 0 true

def knownCrates : Crates :=
  { plainCrates with
    blake3 := fun bytes =>
      if bytes = layout smallBody smallBody.canonical then zeros 32
      else ⟨List.replicate 32 1, List.length_replicate⟩
    decrypt := fun _ nonce aad ciphertext =>
      if nonce = knownSeal.nonce ∧ aad = knownSeal.aad ∧ ciphertext = knownSeal.ciphertext then
        some knownSeal.message
      else none }

def writeKnown : Except Error (Unit × Bytes) × World :=
  capture (writeTimelockedArtifact (calmHost knownCrates) .memory smallRequest smallReader false
    none) (freshWorld .bare)

def knownArtifact : Bytes := (writeKnown.1.toOption.map Prod.snd).getD []

theorem writeKnown_ok : writeKnown = (.ok ((), knownArtifact), writeKnown.2) := by
  have returned : writeKnown.1 = .ok ((), knownArtifact) := by decide +kernel
  rw [← returned]

def recoverKnown : Except Error ((StoredTimelockedArtifact × ChunkDecryptionStats) × Bytes) × World :=
  capture (recoverFromBytes (calmHost knownCrates) .memory (zeros 32) false none
    (knownArtifact ++ [1])) (freshWorld .bare)

theorem recovered_exactly_known :
    ∃ parsed stats recovered, recoverKnown.1 = .ok ((parsed, stats), recovered) ∧
      recovered = [7] ∧
      (∀ original, readTimelockedArtifactBytes knownCrates knownArtifact = .ok original →
        parsed.superblock = original.superblock) ∧
      ∃ original, readTimelockedArtifactBytes knownCrates knownArtifact = .ok original := by
  have success : recoverKnown.1.toBool = true := by decide +kernel
  rcases outcome : recoverKnown with ⟨reason | ⟨⟨parsed, stats⟩, recovered⟩, stop⟩
  · rw [outcome] at success
    cases success
  · -- The cipher of this run opens only the one chunk the writer sealed.
    have authentic : OpensOnly knownCrates smallRequest.keyBytes
        (sealsSince (freshWorld .bare) writeKnown.2) := by
      intro nonce aad ciphertext message opened
      have there : knownSeal ∈ sealsSince (freshWorld .bare) writeKnown.2 := by decide +kernel
      simp only [knownCrates] at opened
      split at opened
      · rename_i same
        obtain ⟨rfl, rfl, rfl⟩ := same
        obtain rfl := Option.some.inj opened
        exact there
      · cases opened
    have collisionFree : ∀ body bytes, plannedSuperblock smallRequest = .ok body →
        encodeSuperblockBody body = .ok bytes → CollisionFree knownCrates bytes := by
      intro body bytes planned encoded other same
      rw [plannedSuperblock_small] at planned
      cases planned
      obtain ⟨_, rfl⟩ := (encodeSuperblockBody_ok _ _).mp encoded
      simp only [knownCrates, if_true] at same
      split at same
      · assumption
      · exact absurd same (by decide)
    obtain ⟨exact_, shown, parses⟩ := recovered_exactly (calmHost knownCrates) .memory smallRequest
      smallReader false none (freshWorld .bare) writeKnown.2 knownArtifact writeKnown_ok authentic
      collisionFree (calmHost knownCrates) rfl .memory false none (knownArtifact ++ [1])
      (freshWorld .bare) stop parsed stats recovered outcome
    exact ⟨parsed, stats, recovered, rfl, exact_, shown, parses (by decide +kernel)⟩

end ExactRecovery
