import Timelocked.ArtifactWriter
import Timelocked.Recovery

/-!
The scan without a key and the decryption agree. Both loops accept the same
grammar of frames, so a payload that decrypts passes the scan with the same
counts, and a payload that passes the scan decrypts as soon as its frames open.
-/
namespace StructuralAgreement
open ByteCodec RunRules Base PathText FileTree ChunkFrame Superblock ProtectedStream ArtifactReader
  ArtifactWriter Recovery

structure Accepted (chunkSize : UInt32) (stream : Bytes) (frames : List StoredFrame) : Prop where
  framed : Stream chunkSize 0 frames
  split : stream = streamBytes 0 frames

/-- A stored frame can be told from its bytes, whatever follows it. -/
theorem storedFrame_bytes_inj (index : UInt64) (frame frame' : StoredFrame) (rest rest' : Bytes)
    (sized : frame.ciphertext.length < 2 ^ 32) (sized' : frame'.ciphertext.length < 2 ^ 32)
    (same : frame.bytes index ++ rest = frame'.bytes index ++ rest') :
    frame = frame' ∧ rest = rest' := by
  simp only [StoredFrame.bytes, List.append_assoc] at same
  obtain ⟨_, s₁⟩ := leBytes_append_inj same
  obtain ⟨terminal, s₂⟩ := leBytes_append_inj s₁
  obtain ⟨plaintextLen, s₃⟩ := leBytes_append_inj s₂
  obtain ⟨lengths, s₄⟩ := leBytes_append_inj s₃
  obtain ⟨nonce, s₅⟩ := List.append_inj s₄ (by rw [frame.nonce.2, frame'.nonce.2])
  have length : frame.ciphertext.length = frame'.ciphertext.length := by
    rw [← toNat_ofNat_length _ sized, lengths, toNat_ofNat_length _ sized']
  obtain ⟨ciphertext, tail⟩ := List.append_inj s₅ length
  obtain ⟨_, _, _, _⟩ := frame
  obtain ⟨_, _, _, _⟩ := frame'
  exact ⟨by simp_all [Subtype.ext_iff], tail⟩

theorem stream_unique (chunkSize : UInt32) (index : Nat) (frames frames' : List StoredFrame)
    (stream : Stream chunkSize index frames) (stream' : Stream chunkSize index frames')
    (same : streamBytes index frames = streamBytes index frames') : frames = frames' := by
  induction stream generalizing frames' with
  | last acceptable terminal =>
      cases stream' with
      | last acceptable' _ =>
          exact congrArg (· :: [])
            (storedFrame_bytes_inj _ _ _ _ _ acceptable.sized acceptable'.sized same).1
      | more acceptable' open_ _ =>
          obtain ⟨rfl, _⟩ := storedFrame_bytes_inj _ _ _ _ _ acceptable.sized acceptable'.sized same
          exact absurd open_ terminal
  | more acceptable open_ _ ih =>
      cases stream' with
      | last acceptable' terminal =>
          obtain ⟨rfl, _⟩ := storedFrame_bytes_inj _ _ _ _ _ acceptable.sized acceptable'.sized same
          exact absurd open_ terminal
      | more acceptable' _ later' =>
          obtain ⟨rfl, tail⟩ :=
            storedFrame_bytes_inj _ _ _ _ _ acceptable.sized acceptable'.sized same
          rw [ih _ later' tail]

section Verify
variable (host : Host) (path : Path) (parsed : StoredTimelockedArtifact)

theorem readPayloadRegionBytes_eq (healthy : host.Healthy) (bytes : Bytes) (before : World)
    (stored : before.tree.readFile host.cwd path = .ok bytes) :
    ∃ after, readPayloadRegionBytes host path parsed before =
      (payloadRegionOf parsed bytes, after) := by
  obtain ⟨called, success, quiet⟩ := call_ok host healthy before
  have fetched : readFile host path before = (.ok bytes, called) := by
    unfold readFile
    rw [Run.bind_of_ok success]
    change (((called.tree.readFile host.cwd path).mapError Error.io), called) = _
    rw [quiet.tree, stored]
    rfl
  exact ⟨called, by rw [readPayloadRegionBytes, Run.bind_of_ok fetched, Run.lift_apply]⟩

/-- The scan and the check after it pass a stream that has the recorded length. -/
theorem scan_passes (frames : List StoredFrame)
    (framed : Stream parsed.superblock.aeadChunkSizeBytes 0 frames)
    (whole : plaintextTotal frames = parsed.superblock.payloadPlaintextBytes.toNat) :
    scanProtectedStreamStructural (streamBytes 0 frames) parsed.superblock.aeadChunkSizeBytes =
        .ok ⟨frames.length, plaintextTotal frames⟩ ∧
      ensureStructuralPlaintextMatchesSuperblock parsed (plaintextTotal frames) = .ok () := by
  refine ⟨(scanProtectedStreamStructural_ok _ _ _).mpr ⟨frames, framed, rfl, rfl⟩, ?_⟩
  rw [ensureStructuralPlaintextMatchesSuperblock, rejectIf_eq_ok, not_not]
  exact whole

/-- Structural verification passes the streams the grammar has, and only them. -/
theorem verifyTimelockedFileStructural_ok (healthy : host.Healthy) (bytes : Bytes) (before : World)
    (stored : before.tree.readFile host.cwd path = .ok bytes)
    (report : TimelockedFileVerification) :
    (∃ after, verifyTimelockedFileStructural host path parsed before = (.ok report, after)) ↔
      ∃ region stream frames, payloadRegionOf parsed bytes = .ok region ∧
        reconstructStream host parsed region = .ok stream ∧
        Accepted parsed.superblock.aeadChunkSizeBytes stream frames ∧
        plaintextTotal frames = parsed.superblock.payloadPlaintextBytes.toNat ∧
        report = ⟨frames.length, plaintextTotal frames⟩ := by
  obtain ⟨fetched, regional⟩ := readPayloadRegionBytes_eq host path parsed healthy bytes before
    stored
  unfold verifyTimelockedFileStructural verifyTimelockedFileStructuralAndCancel
    reconstructAndScanProtectedStream
  constructor
  · rintro ⟨after, verified⟩
    obtain ⟨⟨_, structural⟩, _, scanning, returned⟩ := (Run.bind_eq_ok _ _ _ _ _).mp verified
    rw [Run.bind_of_ok (ensureNotCancelled_none before)] at scanning
    obtain ⟨region, _, fetching, rebuilding⟩ := (Run.bind_eq_ok _ _ _ _ _).mp scanning
    rw [regional] at fetching
    obtain ⟨located, rfl⟩ := Prod.mk.inj fetching
    obtain ⟨stream, reconstructed, reading⟩ := (Run.lift_bind_eq_ok _ _ _ _ _).mp rebuilding
    obtain ⟨found, scanned, checking⟩ := (Run.lift_bind_eq_ok _ _ _ _ _).mp reading
    obtain ⟨_, matched, reported⟩ := (Run.lift_bind_eq_ok _ _ _ _ _).mp checking
    cases reported
    cases returned
    obtain ⟨frames, framed, split, rfl⟩ := (scanProtectedStreamStructural_ok _ _ _).mp scanned
    rw [ensureStructuralPlaintextMatchesSuperblock, rejectIf_eq_ok, not_not] at matched
    exact ⟨region, _, frames, located, reconstructed, ⟨framed, split⟩, matched, rfl⟩
  · rintro ⟨region, stream, frames, located, reconstructed, ⟨framed, split⟩, whole, rfl⟩
    rw [located] at regional
    subst split
    obtain ⟨scanned, matched⟩ := scan_passes parsed frames framed whole
    refine ⟨fetched, (Run.bind_eq_ok _ _ _ _ _).mpr
      ⟨(streamBytes 0 frames, ⟨frames.length, plaintextTotal frames⟩), fetched, ?_, rfl⟩⟩
    rw [Run.bind_of_ok (ensureNotCancelled_none before), Run.bind_of_ok regional,
      Run.lift_bind_of_ok reconstructed, Run.lift_bind_of_ok scanned, Run.lift_bind_of_ok matched]
    rfl

/-- A stored frame decrypts at its index to the length it states. -/
def FrameOpens (keyBytes digest : Block 32) (index : Nat) (frame : StoredFrame) : Prop :=
  ∃ message, host.crates.decrypt keyBytes frame.nonce
      (buildChunkAad digest (UInt64.ofNat index) frame.plaintextLen (frame.terminal ≠ 0))
      frame.ciphertext = some message ∧ message.length = frame.plaintextLen.toNat

theorem opened_of_frames (keyBytes digest : Block 32) (index : Nat) (frames : List StoredFrame)
    (opens : ∀ offset frame, frames[offset]? = some frame →
      FrameOpens host keyBytes digest (index + offset) frame) :
    ∃ messages, Opened host keyBytes digest index frames messages := by
  induction frames generalizing index with
  | nil => exact ⟨[], .nil⟩
  | cons frame rest ih =>
      obtain ⟨message, deciphered, length⟩ := opens 0 frame rfl
      obtain ⟨messages, later⟩ := ih (index + 1) (by
        intro offset other there
        have opened := opens (offset + 1) other there
        rwa [Nat.add_comm offset 1, ← Nat.add_assoc] at opened)
      exact ⟨message :: messages,
        .cons ((openChunk_ok _ _ _ _ _ _).mpr ⟨deciphered, length⟩) later⟩

/-- On a file that parses: what decrypts passes structural verification with the
same counts, and what passes it decrypts, counts included, if its frames open. -/
theorem structural_agrees (healthy : host.Healthy) (bytes : Bytes) (before : World)
    (stored : before.tree.readFile host.cwd path = .ok bytes)
    (read : readTimelockedArtifactBytes host.crates bytes = .ok parsed) (keyBytes : Block 32) :
    (∀ region stream, payloadRegionOf parsed bytes = .ok region →
      reconstructStream host parsed region = .ok stream →
      ∀ writer onProgress cancellation start stop stats,
        decryptRecovered host parsed writer keyBytes onProgress cancellation stream start =
          (.ok stats, stop) →
        ∃ after, verifyTimelockedFileStructural host path parsed before =
          (.ok ⟨stats.chunkCount, stats.plaintextBytes⟩, after)) ∧
    ∀ report after, verifyTimelockedFileStructural host path parsed before =
        (.ok report, after) →
      ∃ region stream digest frames, payloadRegionOf parsed bytes = .ok region ∧
        reconstructStream host parsed region = .ok stream ∧
        superblockDigest host.crates parsed.superblock = .ok digest ∧
        Accepted parsed.superblock.aeadChunkSizeBytes stream frames ∧
        (∀ others, Accepted parsed.superblock.aeadChunkSizeBytes stream others →
          others = frames) ∧
        ((∀ index frame, frames[index]? = some frame →
            FrameOpens host keyBytes digest index frame) →
          ∀ writer, writer.Takes host → ∀ onProgress cancellation, NeverCancelled cancellation →
            ∀ start, ∃ stop, decryptRecovered host parsed writer keyBytes onProgress cancellation
              stream start =
                (.ok ⟨report.chunkCount, report.payloadPlaintextBytes⟩, stop)) := by
  constructor
  · -- Decrypting reads the stream by the same grammar the scan does.
    intro region stream located reconstructed writer onProgress cancellation start stop stats
      decrypted
    obtain ⟨_, frames, _, _, framed, _, split, counts, whole, _⟩ :=
      decryptRecovered_ok _ _ _ _ _ _ _ _ _ _ decrypted
    rw [counts, ← whole]
    exact (verifyTimelockedFileStructural_ok host path parsed healthy bytes before stored _).mpr
      ⟨region, _, frames, located, reconstructed, ⟨framed, split⟩, whole, rfl⟩
  · intro report after verified
    obtain ⟨region, stream, frames, located, reconstructed, accepted, whole, rfl⟩ :=
      (verifyTimelockedFileStructural_ok host path parsed healthy bytes before stored _).mp
        ⟨after, verified⟩
    obtain ⟨valid, _⟩ := decoded_wellSized _ _ (readTimelockedArtifactBytes_decoded _ _ _ read)
    have encoded := (encodeSuperblockBody_ok parsed.superblock _).mpr ⟨valid, rfl⟩
    refine ⟨region, stream,
      host.crates.blake3 (layout parsed.superblock parsed.superblock.canonical), frames, located,
      reconstructed, ?_, accepted, ?_, ?_⟩
    · rw [superblockDigest, encoded]
      rfl
    · -- The grammar is unambiguous, so the frames are the stream's own.
      intro others other
      exact stream_unique _ _ _ _ other.framed accepted.framed
        (other.split.symm.trans accepted.split)
    · intro opens writer takes onProgress cancellation never start
      obtain ⟨messages, opened⟩ := opened_of_frames host keyBytes _ 0 frames (by
        simpa only [Nat.zero_add] using opens)
      obtain ⟨stop, decrypted, _⟩ := decryptRecovered_stream host parsed writer takes keyBytes
        onProgress cancellation never _ encoded frames messages accepted.framed opened whole
        start
      rw [accepted.split, whole]
      exact ⟨stop, decrypted⟩

end Verify

def smallTree : Tree := loneFile smallArtifact

theorem structural_agrees_small :
    ∃ parsed, readTimelockedArtifactBytes plainCrates smallArtifact = .ok parsed ∧
      ∃ after, verifyTimelockedFileStructural (calmHost plainCrates) [['a']] parsed
        (freshWorld smallTree) = (.ok ⟨1, 1⟩, after) := by
  have counted : (recoverFromBytes (calmHost plainCrates) .memory (zeros 32) false none
      smallArtifact (freshWorld smallTree)).1.toOption.map Prod.snd = some ⟨1, 1⟩ := by
    decide +kernel
  rcases ran : recoverFromBytes (calmHost plainCrates) .memory (zeros 32) false none smallArtifact
    (freshWorld smallTree) with ⟨reason | ⟨parsed, stats⟩, stop⟩
  · rw [ran] at counted
    cases counted
  · obtain ⟨region, stream, read, located, reconstructed, decrypted⟩ :=
      (recoverFromBytes_ok _ _ _ _ _ _ _ _ _ _).mp ran
    obtain ⟨passes, _⟩ := structural_agrees (calmHost plainCrates) [['a']] parsed (fun _ => rfl)
      smallArtifact (freshWorld smallTree) rfl read (zeros 32)
    obtain ⟨after, verified⟩ := passes region stream located reconstructed _ _ _ _ _ _ decrypted
    rw [ran] at counted
    obtain rfl := Option.some.inj counted
    exact ⟨parsed, read, after, verified⟩

end StructuralAgreement
