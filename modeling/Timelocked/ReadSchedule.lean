import Timelocked.ProtectedStream
import Timelocked.Blocks

/-!
An encryption whose reader hands the plaintext over in pieces of its own
choice. Whatever the pieces are, decryption returns the plaintext with the
chunks and bytes the encryption counted.
-/
namespace ProtectedStream
open ByteCodec RunRules Base Blocks ChunkFrame

def delivering {size : Nat} (deliveries : List (Piece size)) : PlaintextReader size :=
  deliveries.map .ok

def delivered {size : Nat} (deliveries : List (Piece size)) : Bytes :=
  (deliveries.map fun piece => piece.1).flatten

theorem pieces_delivering {size : Nat} (deliveries : List (Piece size)) :
    pieces (delivering deliveries) = deliveries.map fun piece => piece.1 := by
  induction deliveries with
  | nil => rfl
  | cons piece rest ih => exact congrArg (piece.1 :: ·) ih

theorem delivered_sized {size : Nat} (deliveries : List (Piece size)) :
    ∀ block ∈ deliveries.map fun piece => piece.1, block ≠ [] ∧ block.length ≤ size := by
  intro block member
  obtain ⟨piece, _, rfl⟩ := List.mem_map.mp member
  exact piece.2

theorem chunkFrames_length (chunks : List Chunk) :
    (chunkFrames chunks).length = chunks.length := by
  induction chunks with
  | nil => rfl
  | cons chunk rest ih =>
      cases rest with
      | nil => rfl
      | cons second others => exact congrArg (· + 1) ih

structure Cipher (crates : Crates) (limit : Nat) : Prop extends Aead crates where
  seals : ∀ keyBytes nonce aad message, message.length ≤ limit →
    ∃ ciphertext, crates.encrypt keyBytes nonce aad message = some ciphertext

section Encrypt
variable (host : Host) (writer : Writer) (keyBytes superblockDigest : Block 32)
  (totalPlaintext : Nat) (onProgress : Bool)

theorem sealChunk_takes {limit : Nat} (cipher : Cipher host.crates limit)
    (bounded : limit ≤ 2 ^ 32 - 17) (takes : writer.Takes host) (index : Nat)
    (plaintext : Bytes) (isLast : Bool) (small : plaintext.length ≤ limit) (before : World) :
    ∃ after, sealChunk host writer keyBytes superblockDigest index plaintext isLast before =
      (.ok (), after) := by
  obtain ⟨nonce, w₁, drawn⟩ : ∃ nonce w₁, fillBytes host 24 before = (.ok nonce, w₁) :=
    ⟨_, _, rfl⟩
  obtain ⟨ciphertext, encrypted⟩ := cipher.seals keyBytes nonce (buildChunkAad superblockDigest
    (UInt64.ofNat index) (UInt32.ofNat plaintext.length) isLast) plaintext small
  have tagged := (cipher.opens _ _ _ _ _ encrypted).2
  have sized := toNat_ofNat_length ciphertext (by omega)
  obtain ⟨w₂, emitted⟩ : ∃ w₂, emit (.sealed nonce (buildChunkAad superblockDigest
      (UInt64.ofNat index) (UInt32.ofNat plaintext.length) isLast) plaintext ciphertext) w₁ =
        (.ok (), w₂) := ⟨_, rfl⟩
  obtain ⟨after, written, _⟩ := writeChunkFrame_takes host writer takes ⟨UInt64.ofNat index, isLast,
    UInt32.ofNat plaintext.length, UInt32.ofNat ciphertext.length, nonce⟩ ciphertext sized w₂
  refine ⟨after, ?_⟩
  unfold sealChunk
  rw [Run.bind_of_ok drawn, encrypted]
  exact (Run.bind_of_ok emitted _).trans written

theorem encryptLoop_takes {size : Nat} (cipher : Cipher host.crates size)
    (bounded : size ≤ 2 ^ 32 - 17) (takes : writer.Takes host) (rest : List (Piece size))
    (current : Piece size) (index written : Nat) (before : World) :
    ∃ stats after, encryptLoop host writer keyBytes superblockDigest totalPlaintext onProgress none
      (delivering rest) current index written before = (.ok stats, after) := by
  induction rest generalizing current index written before with
  | nil =>
      obtain ⟨w₁, sealed⟩ := sealChunk_takes host writer keyBytes superblockDigest cipher bounded
        takes index current.1 true current.2.2 before
      obtain ⟨w₂, reported, _⟩ := emitProgress_ok onProgress "lock-encrypt"
        (written + current.1.length) totalPlaintext w₁
      refine ⟨⟨index + 1, written + current.1.length⟩, w₂, ?_⟩
      exact (Run.bind_of_ok rfl _).trans
        ((Run.bind_of_ok sealed _).trans ((Run.bind_of_ok reported _).trans rfl))
  | cons next rest ih =>
      obtain ⟨w₁, sealed⟩ := sealChunk_takes host writer keyBytes superblockDigest cipher bounded
        takes index current.1 false current.2.2 before
      obtain ⟨w₂, reported, _⟩ := emitProgress_ok onProgress "lock-encrypt"
        (written + current.1.length) totalPlaintext w₁
      obtain ⟨stats, after, later⟩ := ih next (index + 1) (written + current.1.length) w₂
      refine ⟨stats, after, (Run.bind_of_ok rfl _).trans ((Run.bind_of_ok sealed _).trans ?_)⟩
      exact (Run.bind_of_ok reported _).trans later

theorem encryptProtectedStream_takes {size : Nat} (cipher : Cipher host.crates size)
    (positive : size ≠ 0) (bounded : size ≤ 2 ^ 32 - 17) (takes : writer.Takes host)
    (deliveries : List (Piece size)) (before : World) :
    ∃ stats after, encryptProtectedStream host writer keyBytes superblockDigest totalPlaintext
      onProgress (delivering deliveries) before = (.ok stats, after) := by
  have accepted : rejectIf (size = 0) (Error.invalidArgument "chunk_size must be greater than 0") =
      .ok () := (rejectIf_eq_ok _ _ ()).mpr positive
  unfold encryptProtectedStream encryptProtectedStreamWithCancel
  rw [Run.lift_bind_of_ok accepted]
  cases deliveries with
  | nil =>
      obtain ⟨w₁, sealed⟩ := sealChunk_takes host writer keyBytes superblockDigest cipher bounded
        takes 0 [] true (Nat.zero_le _) before
      obtain ⟨w₂, reported, _⟩ := emitProgress_ok onProgress "lock-encrypt" 0 totalPlaintext w₁
      refine ⟨⟨1, 0⟩, w₂, (Run.bind_of_ok rfl _).trans ((Run.bind_of_ok sealed _).trans ?_)⟩
      exact (Run.bind_of_ok reported _).trans rfl
  | cons current rest =>
      obtain ⟨stats, after, looped⟩ := encryptLoop_takes host writer keyBytes superblockDigest
        totalPlaintext onProgress cipher bounded takes rest current 0 0 before
      exact ⟨stats, after, (Run.bind_of_ok rfl _).trans looped⟩

/-- Whatever pieces the plaintext comes in, it is sealed and opened again. -/
theorem protectedStream_roundTrip (reader : Host) (output : Writer) (onUnlock : Bool)
    (chunkSize : UInt32) (expectedPlaintext : UInt64)
    (cipher : Cipher host.crates chunkSize.toNat) (same : reader.crates = host.crates)
    (takes : writer.Takes host) (accepts : output.Takes reader) (positive : chunkSize ≠ 0)
    (bounded : chunkSize.toNat ≤ 2 ^ 32 - 17) (deliveries : List (Piece chunkSize.toNat))
    (expected : expectedPlaintext.toNat = (delivered deliveries).length) (before : World) :
    ∃ stats after stream, encryptProtectedStream host writer keyBytes superblockDigest
        totalPlaintext onProgress (delivering deliveries) before = (.ok stats, after) ∧
      after.sink = before.sink ++ stream ∧ stats.plaintextBytes = (delivered deliveries).length ∧
      ∀ start, ∃ done, decryptProtectedStreamToWriter reader output keyBytes superblockDigest
          chunkSize expectedPlaintext.toNat onUnlock stream start =
            (.ok ⟨stats.chunkCount, stats.plaintextBytes⟩, done) ∧
        Wrote (delivered deliveries) start done := by
  have wide : chunkSize.toNat ≠ 0 := fun zero => positive (UInt32.toNat_inj.mp zero)
  obtain ⟨stats, after, encrypted⟩ := encryptProtectedStream_takes host writer keyBytes
    superblockDigest totalPlaintext onProgress cipher wide bounded takes deliveries before
  obtain ⟨chunks, chunked, messages, sealed, total⟩ :=
    encryptProtectedStreamWithCancel_ok host writer keyBytes superblockDigest totalPlaintext
      onProgress none (delivering deliveries) stats before after encrypted
  rw [pieces_delivering] at messages total
  -- No read is empty, so there are no more chunks than bytes, and a length word counts those.
  have few : chunks.length ≤ 2 ^ 64 := by
    have most := expectedPlaintext.toNat_lt
    have count : chunks.length = (chunks.map Chunk.message).length := (List.length_map _).symm
    rcases messages with read | ⟨_, single⟩
    · have bound := length_le_flatten (deliveries.map fun piece => piece.1)
        fun block member => (delivered_sized deliveries block member).1
      rw [count, read]
      rw [delivered] at expected
      omega
    · rw [count, single, List.length_singleton]
      omega
  rw [← pieces_delivering] at messages
  obtain ⟨framed, opened, length, flat⟩ := chunkFrames_pieces host keyBytes superblockDigest
    cipher.toAead chunkSize (delivering deliveries) chunks chunked messages sealed.ciphered few
  rw [pieces_delivering] at length flat
  refine ⟨stats, after, streamBytes 0 (chunkFrames chunks), encrypted, sealed.sink, ?_, ?_⟩
  · rw [total]
    rfl
  · intro start
    have never := neverCancelled_none
    obtain ⟨done, decrypted, wrote⟩ := decryptProtectedStreamToWriterWithCancel_stream reader
      output keyBytes superblockDigest chunkSize expectedPlaintext.toNat onUnlock none never accepts
      (chunkFrames chunks) (chunks.map Chunk.message) framed
      (opened_crates host keyBytes superblockDigest reader same opened)
      (length.trans expected.symm) start
    refine ⟨done, ?_, ?_⟩
    · rw [decryptProtectedStreamToWriter, decrypted, total, chunkFrames_length, expected]
      rfl
    · rwa [flat] at wrote

end Encrypt

theorem plainCrates_cipher (limit : Nat) : Cipher plainCrates limit :=
  ⟨plainCrates_aead, fun _ _ _ _ _ => ⟨_, rfl⟩⟩

def firstByte : Piece 4 := ⟨[1], by simp, by simp⟩

def shortReads : List (Piece 4) := [firstByte, ⟨[2, 3], by simp, by simp⟩]

theorem protectedStream_roundTrip_short :
    ∃ stats after stream, encryptProtectedStream (calmHost plainCrates) .memory (zeros 32)
        (zeros 32) 3 false (delivering shortReads) (freshWorld .bare) = (.ok stats, after) ∧
      after.sink = (freshWorld .bare).sink ++ stream ∧
      stats.plaintextBytes = (delivered shortReads).length ∧
      ∀ start, ∃ done, decryptProtectedStreamToWriter (calmHost plainCrates) .memory (zeros 32)
          (zeros 32) 4 (3 : UInt64).toNat false stream start =
            (.ok ⟨stats.chunkCount, stats.plaintextBytes⟩, done) ∧
        Wrote (delivered shortReads) start done :=
  protectedStream_roundTrip (calmHost plainCrates) .memory (zeros 32) (zeros 32) 3 false
    (calmHost plainCrates) .memory false 4 3 (plainCrates_cipher _) rfl trivial trivial (by decide)
    (by decide) shortReads rfl (freshWorld .bare)

end ProtectedStream
