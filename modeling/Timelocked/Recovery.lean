import Timelocked.ArtifactReader
import Timelocked.PayloadRegion
import Timelocked.ProtectedStream

/-!
Recovery and verification of a parsed artifact: both reconstruct the stream
from the payload region, recovery then decrypts it, verification scans it.
-/
namespace Recovery
open ByteCodec RunRules Base PathText ChunkFrame Superblock ArtifactReader PayloadRegion
  ProtectedStream

structure RecoverFileKeyRequest where
  material : TimelockPayloadMaterial
  iterations : UInt64
  modulusBits : UInt16

abbrev RecoverFileKeyFn := RecoverFileKeyRequest → Op (Block 32)

def keyRequest (parsed : StoredTimelockedArtifact) : RecoverFileKeyRequest :=
  ⟨parsed.superblock.timelockMaterial, parsed.superblock.iterations, parsed.superblock.modulusBits⟩

def layoutOf (body : SuperblockBody) : PayloadRegionLayout :=
  ⟨body.rsDataShards, body.rsParityShards, body.rsShardBytes⟩

structure TimelockedFileVerification where
  chunkCount : Nat
  payloadPlaintextBytes : Nat
  deriving DecidableEq, Repr

def ensureStructuralPlaintextMatchesSuperblock (parsed : StoredTimelockedArtifact)
    (structuralPlaintextBytes : Nat) : Except Error Unit :=
  let expected := parsed.superblock.payloadPlaintextBytes
  rejectIf (structuralPlaintextBytes ≠ expected.toNat)
    (.verification
      s!"payload plaintext size mismatch, expected {expected}, got {structuralPlaintextBytes}")

section Recover
variable (host : Host) (path : Path) (parsed : StoredTimelockedArtifact)

/-- The stream behind a parsed artifact, repaired where the code can. -/
def reconstructStream (payloadRegion : Bytes) : Except Error Bytes :=
  reconstructPayloadRegion host.crates payloadRegion parsed.superblock.protectedStreamLen
    (layoutOf parsed.superblock)

def decryptRecovered (writer : Writer) (keyBytes : Block 32) (onProgress : Bool)
    (cancellation : Option CancellationToken) (protectedStream : Bytes) :
    Op ChunkDecryptionStats := do
  let digest ← Run.lift (superblockDigest host.crates parsed.superblock)
  decryptProtectedStreamToWriterWithCancel host writer keyBytes digest
    parsed.superblock.aeadChunkSizeBytes parsed.superblock.payloadPlaintextBytes.toNat onProgress
    cancellation protectedStream

def recoverFromBytes (writer : Writer) (keyBytes : Block 32) (onProgress : Bool)
    (cancellation : Option CancellationToken) (bytes : Bytes) :
    Op (StoredTimelockedArtifact × ChunkDecryptionStats) := do
  let parsed ← Run.lift (readTimelockedArtifactBytes host.crates bytes)
  let payloadRegion ← Run.lift (payloadRegionOf parsed bytes)
  let protectedStream ← Run.lift (reconstructStream host parsed payloadRegion)
  let stats ← decryptRecovered host parsed writer keyBytes onProgress cancellation protectedStream
  pure (parsed, stats)

def recoverPayloadToWriterWithCancel (writer : Writer) (recoverFileKey : RecoverFileKeyFn)
    (onProgress : Bool) (cancellation : Option CancellationToken) : Op ChunkDecryptionStats := do
  let key ← recoverFileKey
    ⟨parsed.superblock.timelockMaterial, parsed.superblock.iterations,
      parsed.superblock.modulusBits⟩
  let payloadRegion ← readPayloadRegionBytes host path parsed
  let protectedStream ← Run.lift (reconstructStream host parsed payloadRegion)
  decryptRecovered host parsed writer key onProgress cancellation protectedStream

def reconstructAndScanProtectedStream (cancellation : Option CancellationToken) :
    Op (Bytes × ChunkDecryptionStats) := do
  ensureNotCancelled cancellation
  let payloadRegion ← readPayloadRegionBytes host path parsed
  let protectedStream ← Run.lift (reconstructStream host parsed payloadRegion)
  let structural ← Run.lift
    (scanProtectedStreamStructural protectedStream parsed.superblock.aeadChunkSizeBytes)
  Run.lift (ensureStructuralPlaintextMatchesSuperblock parsed structural.plaintextBytes)
  pure (protectedStream, structural)

def verifyTimelockedFileStructuralAndCancel (cancellation : Option CancellationToken) :
    Op TimelockedFileVerification := do
  let (_, structural) ← reconstructAndScanProtectedStream host path parsed cancellation
  pure ⟨structural.chunkCount, structural.plaintextBytes⟩

def verifyTimelockedFileStructural : Op TimelockedFileVerification :=
  verifyTimelockedFileStructuralAndCancel host path parsed none

/-- A decryption that succeeds opened one stream, bound to the superblock. -/
theorem decryptRecovered_ok (writer : Writer) (keyBytes : Block 32) (onProgress : Bool)
    (cancellation : Option CancellationToken) (protectedStream : Bytes)
    (stats : ChunkDecryptionStats) (before after : World)
    (success : decryptRecovered host parsed writer keyBytes onProgress cancellation
      protectedStream before = (.ok stats, after)) :
    ∃ bodyBytes frames messages, encodeSuperblockBody parsed.superblock = .ok bodyBytes ∧
      Stream parsed.superblock.aeadChunkSizeBytes 0 frames ∧
      Opened host keyBytes (host.crates.blake3 bodyBytes) 0 frames messages ∧
      protectedStream = streamBytes 0 frames ∧
      stats = ⟨frames.length, parsed.superblock.payloadPlaintextBytes.toNat⟩ ∧
      plaintextTotal frames = parsed.superblock.payloadPlaintextBytes.toNat ∧
      Wrote messages.flatten before after := by
  unfold decryptRecovered at success
  obtain ⟨digest, digested, decrypting⟩ := (Run.lift_bind_eq_ok _ _ _ _ _).mp success
  obtain ⟨bodyBytes, encoded, returned⟩ := (bind_eq_ok _ _ _).mp digested
  cases returned
  obtain ⟨frames, messages, stream, opened, split, count, total, wrote⟩ :=
    decryptProtectedStreamToWriterWithCancel_ok _ _ _ _ _ _ _ _ _ _ _ _ decrypting
  exact ⟨bodyBytes, frames, messages, encoded, stream, opened, split, count, total, wrote⟩

/-- A stream bound to the superblock that opens to its end is recovered. -/
theorem decryptRecovered_stream (writer : Writer) (takes : writer.Takes host) (keyBytes : Block 32)
    (onProgress : Bool) (cancellation : Option CancellationToken)
    (never : NeverCancelled cancellation) (bodyBytes : Bytes)
    (encoded : encodeSuperblockBody parsed.superblock = .ok bodyBytes)
    (frames : List StoredFrame) (messages : List Bytes)
    (stream : Stream parsed.superblock.aeadChunkSizeBytes 0 frames)
    (opened : Opened host keyBytes (host.crates.blake3 bodyBytes) 0 frames messages)
    (whole : plaintextTotal frames = parsed.superblock.payloadPlaintextBytes.toNat)
    (before : World) :
    ∃ after, decryptRecovered host parsed writer keyBytes onProgress cancellation
        (streamBytes 0 frames) before =
          (.ok ⟨frames.length, parsed.superblock.payloadPlaintextBytes.toNat⟩, after) ∧
      Wrote messages.flatten before after := by
  obtain ⟨after, decrypted, wrote⟩ := decryptProtectedStreamToWriterWithCancel_stream host writer
    keyBytes (host.crates.blake3 bodyBytes) parsed.superblock.aeadChunkSizeBytes
    parsed.superblock.payloadPlaintextBytes.toNat onProgress cancellation never takes frames
    messages stream opened whole before
  refine ⟨after, ?_, wrote⟩
  unfold decryptRecovered
  have digested : superblockDigest host.crates parsed.superblock =
      .ok (host.crates.blake3 bodyBytes) := by
    rw [superblockDigest, encoded]
    rfl
  rw [Run.lift_bind_of_ok digested, decrypted]

end Recover

theorem recoverFromBytes_ok (host : Host) (writer : Writer) (keyBytes : Block 32)
    (onProgress : Bool) (cancellation : Option CancellationToken) (bytes : Bytes)
    (parsed : StoredTimelockedArtifact) (stats : ChunkDecryptionStats) (before after : World) :
    recoverFromBytes host writer keyBytes onProgress cancellation bytes before =
        (.ok (parsed, stats), after) ↔
      ∃ payloadRegion protectedStream,
        readTimelockedArtifactBytes host.crates bytes = .ok parsed ∧
        payloadRegionOf parsed bytes = .ok payloadRegion ∧
        reconstructStream host parsed payloadRegion = .ok protectedStream ∧
        decryptRecovered host parsed writer keyBytes onProgress cancellation protectedStream
          before = (.ok stats, after) := by
  unfold recoverFromBytes
  simp only [Run.lift_bind_eq_ok]
  constructor
  · rintro ⟨_, read, region, located, stream, reconstructed, decrypting⟩
    obtain ⟨_, _, decrypted, returned⟩ := (Run.bind_eq_ok _ _ _ _ _).mp decrypting
    cases returned
    exact ⟨region, stream, read, located, reconstructed, decrypted⟩
  · rintro ⟨region, stream, read, located, reconstructed, decrypted⟩
    exact ⟨parsed, read, region, located, stream, reconstructed,
      (Run.bind_of_ok decrypted _).trans rfl⟩

/-! What stays as it was during recovery and verification, wherever they stop. -/

section Steady
variable {related : World → World → Prop} (steady : Steady related)
  (hears : Hears related) (host : Host) (path : Path) (parsed : StoredTimelockedArtifact)
  (cancellation : Option CancellationToken)
include steady

theorem readPayloadRegionBytes_steady :
    Run.Keeps related (readPayloadRegionBytes host path parsed) :=
  steady.bind (readFile_steady steady host path) fun _ => steady.lift _

theorem verifyTimelockedFileStructuralAndCancel_steady :
    Run.Keeps related (verifyTimelockedFileStructuralAndCancel host path parsed cancellation) := by
  refine steady.bind ?_ fun _ => steady.pure _
  refine steady.bind (ensureNotCancelled_steady steady cancellation) fun _ => ?_
  refine steady.bind (readPayloadRegionBytes_steady steady host path parsed) fun _ => ?_
  exact steady.lift_bind fun _ => steady.lift_bind fun _ => steady.lift_bind fun _ => steady.pure _

include hears

theorem decryptRecovered_steady (writer : Writer) (keyBytes : Block 32) (onProgress : Bool)
    (protectedStream : Bytes) :
    Run.Keeps related (decryptRecovered host parsed writer keyBytes onProgress cancellation
      protectedStream) :=
  steady.lift_bind fun _ =>
    decryptProtectedStreamToWriterWithCancel_steady steady hears _ _ _ _ _ _ _ _ _

theorem recoverPayloadToWriterWithCancel_steady (writer : Writer) (recoverFileKey : RecoverFileKeyFn)
    (keyKeeps : Run.Keeps related (recoverFileKey (keyRequest parsed))) (onProgress : Bool) :
    Run.Keeps related (recoverPayloadToWriterWithCancel host path parsed writer recoverFileKey
      onProgress cancellation) := by
  refine steady.bind keyKeeps fun key => ?_
  refine steady.bind (readPayloadRegionBytes_steady steady host path parsed) fun _ => ?_
  exact steady.lift_bind fun stream =>
    decryptRecovered_steady steady hears host parsed cancellation _ _ _ _

end Steady

/-- What a recovered payload is, counted from the bytes of the file. -/
structure Recovered (host : Host) (bytes : Bytes) (parsed : StoredTimelockedArtifact)
    (plaintext : Bytes) (recoveredBytes : Nat) : Prop where
  read : readTimelockedArtifactBytes host.crates bytes = .ok parsed
  stored : ∃ payloadRegion bodyBytes keyBytes frames messages,
    payloadRegionOf parsed bytes = .ok payloadRegion ∧
    reconstructStream host parsed payloadRegion = .ok (streamBytes 0 frames) ∧
    encodeSuperblockBody parsed.superblock = .ok bodyBytes ∧
    Stream parsed.superblock.aeadChunkSizeBytes 0 frames ∧
    Opened host keyBytes (host.crates.blake3 bodyBytes) 0 frames messages ∧
    plaintext = messages.flatten
  length : plaintext.length = recoveredBytes
  recorded : recoveredBytes = parsed.superblock.payloadPlaintextBytes.toNat

theorem readFile_eq_ok (host : Host) (path : Path) (bytes : Bytes) (before after : World)
    (read : readFile host path before = (.ok bytes, after)) :
    before.tree.readFile host.cwd path = .ok bytes ∧ Quiet before after := by
  obtain ⟨_, called, success, looked⟩ := (Run.bind_eq_ok _ _ _ _ _).mp read
  have quiet := Run.keeps_outcome (call_quiet host) success
  obtain ⟨tree, _, observed, found⟩ := (Run.bind_eq_ok _ _ _ _ _).mp looked
  cases observed
  obtain ⟨answer, same⟩ := Prod.mk.inj found
  rw [mapError_eq_ok, quiet.tree] at answer
  exact ⟨answer, same ▸ quiet⟩

theorem recoverPayloadToWriterWithCancel_ok (host : Host) (path : Path)
    (parsed : StoredTimelockedArtifact) (writer : Writer) (recoverFileKey : RecoverFileKeyFn)
    (keyQuiet : ∀ request, Run.Keeps Quiet (recoverFileKey request)) (onProgress : Bool)
    (cancellation : Option CancellationToken) (bytes : Bytes) (stats : ChunkDecryptionStats)
    (before after : World) (there : before.tree.readFile host.cwd path = .ok bytes)
    (read : readTimelockedArtifactBytes host.crates bytes = .ok parsed)
    (success : recoverPayloadToWriterWithCancel host path parsed writer recoverFileKey onProgress
      cancellation before = (.ok stats, after)) :
    ∃ plaintext, Recovered host bytes parsed plaintext stats.plaintextBytes ∧
      Wrote plaintext before after := by
  unfold recoverPayloadToWriterWithCancel at success
  obtain ⟨keyBytes, keyed, gotKey, s₁⟩ := (Run.bind_eq_ok _ _ _ _ _).mp success
  have quiet := Run.keeps_outcome (keyQuiet _) gotKey
  obtain ⟨payloadRegion, looked, fetched, s₂⟩ := (Run.bind_eq_ok _ _ _ _ _).mp s₁
  obtain ⟨again, opened, reread, located⟩ := (Run.bind_eq_ok _ _ _ _ _).mp fetched
  obtain ⟨same, quiet'⟩ := readFile_eq_ok host path again keyed opened reread
  rw [quiet.tree, there] at same
  obtain rfl := Except.ok.inj same
  obtain ⟨region, rfl⟩ := Prod.mk.inj located
  obtain ⟨protectedStream, reconstructed, decrypting⟩ := (Run.lift_bind_eq_ok _ _ _ _ _).mp s₂
  obtain ⟨bodyBytes, frames, messages, encoded, stream, authentic, split, count, total, wrote⟩ :=
    decryptRecovered_ok host parsed writer keyBytes onProgress cancellation protectedStream stats
      opened after decrypting
  refine ⟨messages.flatten, ⟨read, ⟨payloadRegion, bodyBytes, keyBytes, frames, messages, region,
    split ▸ reconstructed, encoded, stream, authentic, rfl⟩, ?_, ?_⟩,
    quiet_wrote (quiet_trans _ _ _ quiet quiet') wrote⟩
  · rw [opened_lengths host keyBytes _ authentic, total, count]
  · rw [count]

end Recovery
