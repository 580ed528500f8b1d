import Mathlib.Data.List.Infix
import Timelocked.ArtifactWriter
import Timelocked.Recovery

/-!
Recovery of damage within the budget. One of the two superblock copies leads to
the payload region, and in every stripe of it the erasure code makes up for the
records whose checksum fails. The lengths the writer predicted are the ones the
reader derives from either copy.
-/
namespace DamageRecovery
open ByteCodec RunRules Blocks Base ChunkFrame Superblock Notice PayloadRegion ProtectedStream
  ArtifactReader ArtifactWriter Recovery

/-- What may have happened to a file since it parsed as `original`. -/
structure Damaged (crates : Crates) (original : StoredTimelockedArtifact)
    (artifact presented : Bytes) : Prop where
  length : presented.length = artifact.length
  copies : presented.drop original.endSuperblockOffset =
      artifact.drop original.endSuperblockOffset ∨
    (presented.take 4 = artifact.take 4 ∧
      range presented original.startSuperblockOffset original.payloadRegionOffset =
        range artifact original.startSuperblockOffset original.payloadRegionOffset)
  stripes : DamagedRegion crates (layoutOf original.superblock)
    (range artifact original.payloadRegionOffset original.endSuperblockOffset)
    (range presented original.payloadRegionOffset original.endSuperblockOffset)
  ownStart : ∀ offset ∈ scannedOffsets presented, ∀ copy,
    decodeStartSuperblockCopy crates (presented.drop offset) = .ok copy →
      offset = original.startSuperblockOffset ∧ copy.bodyBytes = original.superblockBytes
  ownEnd : ∀ start copy, decodeEndCopyFromFile crates presented = .ok (start, copy) →
    copy.bodyBytes = original.superblockBytes

section Copies
variable (crates : Crates) (front region tail bodyBytes : Bytes) (body : SuperblockBody)
  (decoded : decodeSuperblockBody bodyBytes = .ok body)
include decoded

/-- A start copy that can only be the file's own is found in its place. -/
theorem startCopyOf_own (presented : Bytes)
    (ownStart : ∀ offset ∈ scannedOffsets presented, ∀ copy,
      decodeStartSuperblockCopy crates (presented.drop offset) = .ok copy →
        offset = front.length - (12 + bodyBytes.length) ∧ copy.bodyBytes = bodyBytes) :
    startCopyOf crates presented = none ∨
      startCopyOf crates presented = some (startCopyAt front body bodyBytes) := by
  cases found : startCopyOf crates presented with
  | none => exact .inl rfl
  | some place =>
      obtain ⟨offset, copy⟩ := place
      obtain ⟨located, copied⟩ := (startCopyOf_eq_some crates _ _ _).mp found
      obtain ⟨rfl, same⟩ := ownStart offset
        (findStartSuperblockOffset_scanned crates _ _ located) copy copied
      obtain ⟨decoded', total, _⟩ := (decodeStartSuperblockCopy_ok crates _ _).mp copied
      obtain ⟨body', bodyBytes', totalLen⟩ := copy
      dsimp only at same decoded' total
      subst same total
      rw [decoded] at decoded'
      obtain rfl := Except.ok.inj decoded'
      exact .inr rfl

theorem endCopyOf_own (presented : Bytes)
    (length : presented.length = front.length + (region.length + (bodyBytes.length + 12)))
    (ownEnd : ∀ start copy, decodeEndCopyFromFile crates presented = .ok (start, copy) →
      copy.bodyBytes = bodyBytes) :
    endCopyOf crates presented = none ∨
      endCopyOf crates presented = some (endCopyAt front region body bodyBytes) := by
  cases found : endCopyOf crates presented with
  | none => exact .inl rfl
  | some place =>
      obtain ⟨start, copy⟩ := place
      have copied := (endCopyOf_eq_some crates _ _ _).mp found
      have same := ownEnd start copy copied
      obtain ⟨decoded', total, before, rfl, rfl⟩ := (decodeEndCopyFromFile_ok crates _ _ _).mp copied
      obtain ⟨body', bodyBytes', totalLen⟩ := copy
      dsimp only at same decoded' total length
      subst same total
      rw [decoded] at decoded'
      obtain rfl := Except.ok.inj decoded'
      rw [List.length_append, endFrame_length] at length
      refine .inr (congrArg some (Prod.ext ?_ rfl))
      simp only [endCopyAt]
      omega

/-- An intact start copy behind an intact magic is found. -/
theorem startCopyOf_intact (presented notice later : Bytes)
    (split : presented = notice ++ (startFrame crates bodyBytes ++ later))
    (magic : presented.take 4 = fileMagic) (bounds : 6 ≤ notice.length)
    (near : notice.length ≤ 6 + maxNoticeBytes) : startCopyOf crates presented ≠ none := by
  have copied : decodeStartSuperblockCopy crates (presented.drop notice.length) =
      .ok ⟨body, bodyBytes, 12 + bodyBytes.length⟩ := by
    rw [split, List.drop_left, decodeStartSuperblockCopy_ok]
    exact ⟨decoded, rfl, later, rfl⟩
  have scanned : notice.length ∈ scannedOffsets presented := by
    rw [mem_scannedOffsets, split, List.length_append, List.length_append, startFrame_length]
    simp only [maxNoticeBytes, noticeScanWindowBytes] at near ⊢
    omega
  obtain ⟨found, located⟩ := findStartSuperblockOffset_exists crates presented notice.length magic
    scanned ((startsCopy_iff crates _ _).mpr ⟨_, copied⟩)
  obtain ⟨copy, there⟩ := (startsCopy_iff crates _ _).mp
    (findStartSuperblockOffset_ok crates _ _ located)
  rw [(startCopyOf_eq_some crates _ _ _).mpr ⟨located, there⟩]
  exact Option.some_ne_none _

end Copies

section Recover
variable (host : Host) (writer : Writer) (request : LockArtifactRequest)
  (plaintextReader : PlaintextReader request.aeadChunkSizeBytes.toNat) (onProgress : Bool)
  (cancellation : Option CancellationToken)

/-- The file's parts, cut where the intact file is cut. -/
theorem damaged_located (artifact presented front region tail : Bytes) (body : SuperblockBody)
    (bodyBytes : Bytes)
    (located : Located artifact front region tail body bodyBytes)
    (length : presented.length = artifact.length) :
    Located presented (presented.take front.length)
      (range presented front.length (front.length + region.length))
      (presented.drop (front.length + region.length)) body bodyBytes := by
  obtain ⟨split, addressable, room, regionLength, tailLength⟩ := located
  have total : presented.length = front.length + (region.length + tail.length) := by
    rw [length, split, List.length_append, List.length_append]
  refine ⟨?_, length ▸ addressable, ?_, ?_, ?_⟩
  · rw [range_append _ _ _ (Nat.le_add_right _ _), List.take_append_drop]
  · rw [List.length_take]
    omega
  · rw [range_length _ _ _ (by omega), Nat.add_sub_cancel_left, regionLength]
  · rw [List.length_drop]
    omega

/-- A body whose parts fit their length fields is read back. -/
theorem written_decodes {artifact : Bytes} {before after : World} {body : SuperblockBody}
    {bodyBytes notice stream region : Bytes} {chunks : List Chunk}
    (written : Written host request plaintextReader artifact before after body bodyBytes notice
      stream region chunks)
    (named : request.originalFilename ≠ some "")
    (nameFits : (asBytes (request.originalFilename.getD "")).length ≤ 65535)
    (profileFits : (asBytes request.hardwareProfile).length ≤ 65535)
    (small : bodyBytes.length ≤ maxSuperblockBodyLenBytes) :
    decodeSuperblockBody bodyBytes = .ok body := by
  obtain ⟨_, _, planned⟩ := plannedSuperblock_ok request body written.planned
  obtain ⟨valid, spelled⟩ := (encodeSuperblockBody_ok _ _).mp written.encoded
  rw [spelled] at small ⊢
  refine decodeSuperblockBody_encode body valid ⟨?_, ?_, ?_, small⟩
  · rw [planned]
    exact named
  · rw [planned]
    exact Nat.lt_succ_of_le nameFits
  · rw [planned]
    exact Nat.lt_succ_of_le profileFits

/-- Whoever gets the stream of an artifact back recovers its plaintext. -/
theorem decryptRecovered_written (aead : Aead host.crates)
    {artifact : Bytes} {before after : World} {body : SuperblockBody}
    {bodyBytes notice stream region : Bytes} {chunks : List Chunk}
    (written : Written host request plaintextReader artifact before after body bodyBytes notice
      stream region chunks)
    (parsed : StoredTimelockedArtifact) (superblock : parsed.superblock = body)
    (reader : Host) (sameCrates : reader.crates = host.crates) (output : Writer)
    (takes : output.Takes reader) (reporting : Bool) (token : Option CancellationToken)
    (never : NeverCancelled token) (start : World) :
    ∃ stats stop, decryptRecovered reader parsed output request.keyBytes reporting token stream
        start = (.ok stats, stop) ∧
      stats.plaintextBytes = body.payloadPlaintextBytes.toNat ∧
      Wrote (pieces plaintextReader).flatten start stop := by
  obtain ⟨framed, opened, whole, flat⟩ := written_stream host request plaintextReader aead written
  have openedHere : Opened reader request.keyBytes (reader.crates.blake3 bodyBytes) 0
      (chunkFrames chunks) (chunks.map Chunk.message) := by
    rw [sameCrates]
    exact opened_crates _ _ _ reader sameCrates opened
  obtain ⟨stop, decrypted, wrote⟩ := decryptRecovered_stream reader parsed output takes
    request.keyBytes reporting token never bodyBytes (superblock ▸ written.encoded)
    (chunkFrames chunks) (chunks.map Chunk.message) (superblock ▸ framed) openedHere
    (superblock ▸ whole) start
  rw [← written.stream_eq] at decrypted
  exact ⟨_, stop, decrypted, by rw [superblock], flat ▸ wrote⟩

/-- Behind a successful parse, damage within the budget does not matter. -/
theorem recoverFromBytes_damaged (aead : Aead host.crates)
    (code : ErasureCode host.crates request.payloadRegionParams.rsDataShards.toNat
      request.payloadRegionParams.rsParityShards.toNat)
    {artifact : Bytes} {before after : World} {body : SuperblockBody}
    {bodyBytes notice stream region : Bytes} {chunks : List Chunk}
    (written : Written host request plaintextReader artifact before after body bodyBytes notice
      stream region chunks)
    (presented presentedRegion : Bytes) (parsed : StoredTimelockedArtifact)
    (read : readTimelockedArtifactBytes host.crates presented = .ok parsed)
    (superblock : parsed.superblock = body)
    (located : payloadRegionOf parsed presented = .ok presentedRegion)
    (damage : DamagedRegion host.crates (layoutOf body) region presentedRegion)
    (reader : Host) (sameCrates : reader.crates = host.crates) (output : Writer)
    (takes : output.Takes reader) (reporting : Bool) (token : Option CancellationToken)
    (never : NeverCancelled token) (start : World) :
    ∃ stats stop, capture (recoverFromBytes reader output request.keyBytes reporting token
        presented) start = (.ok ((parsed, stats), (pieces plaintextReader).flatten), stop) := by
  obtain ⟨_, _, planned⟩ := plannedSuperblock_ok request body written.planned
  have layoutEq : layoutOf body = request.payloadRegionParams := by
    rw [planned]
    rfl
  -- The repair gives back the stream that was sealed, and that stream is known to open.
  have reconstructed : reconstructStream reader parsed presentedRegion = .ok stream := by
    rw [reconstructStream, sameCrates, superblock]
    rw [layoutEq] at damage ⊢
    exact reconstructPayloadRegion_damaged host.crates _ code _ _ _ _ written.stream_length
      written.striped damage
  obtain ⟨stats, stop, decrypted, _, wrote⟩ := decryptRecovered_written host request
    plaintextReader aead written parsed superblock reader sameCrates output takes reporting token
    never { start with sink := [] }
  refine ⟨stats, _, (capture_eq_ok _ _ _ _ _).mpr ⟨stop,
    (recoverFromBytes_ok _ _ _ _ _ _ _ _ _ _).mpr ⟨presentedRegion, stream, sameCrates ▸ read,
      located, reconstructed, decrypted⟩, ?_, rfl⟩⟩
  rw [wrote.sink, List.nil_append]

/-- A damaged file still parses, to the same superblock, and still holds its
region where it was. -/
theorem damaged_parses {artifact : Bytes} {before after : World} {body : SuperblockBody}
    {bodyBytes notice stream region : Bytes} {chunks : List Chunk}
    (written : Written host request plaintextReader artifact before after body bodyBytes notice
      stream region chunks)
    (decoded : decodeSuperblockBody bodyBytes = .ok body) (addressable : artifact.length < 2 ^ 64)
    (original : StoredTimelockedArtifact)
    (parsedAs : ParsedAs original (notice ++ startFrame host.crates bodyBytes) region body bodyBytes)
    (presented : Bytes) (damage : Damaged host.crates original artifact presented) :
    ∃ parsed region', readTimelockedArtifactBytes host.crates presented = .ok parsed ∧
      parsed.superblock = body ∧ payloadRegionOf parsed presented = .ok region' ∧
      DamagedRegion host.crates (layoutOf body) region region' := by
  have located := written_located host request plaintextReader written body decoded addressable
  have bounds := encodeNotice_length _ _ written.noticed
  obtain ⟨front, frontEq⟩ : ∃ front, front = notice ++ startFrame host.crates bodyBytes := ⟨_, rfl⟩
  rw [← frontEq] at parsedAs located
  have frontLength : front.length = notice.length + (12 + bodyBytes.length) := by
    rw [frontEq, List.length_append, startFrame_length]
  have here := damaged_located artifact presented front region _ body bodyBytes located
    damage.length
  have total : presented.length =
      front.length + (region.length + (bodyBytes.length + 12)) := by
    rw [damage.length, located.split, List.length_append, List.length_append,
      located.tail_length]
  have offset : front.length - (12 + bodyBytes.length) = notice.length := by
    rw [frontLength, Nat.add_sub_cancel]
  obtain ⟨_, copies, stripes, ownStart, ownEnd⟩ := damage
  rw [parsedAs.startSuperblockOffset, parsedAs.superblockBytes] at ownStart
  rw [parsedAs.superblockBytes] at ownEnd
  rw [parsedAs.superblock, parsedAs.payloadRegionOffset, parsedAs.endSuperblockOffset,
    located.split, range_middle front region _ _ _ rfl rfl] at stripes
  rw [parsedAs.startSuperblockOffset, parsedAs.payloadRegionOffset,
    parsedAs.endSuperblockOffset, offset] at copies
  -- Either copy, where it is still found, is the written one in its written place.
  have start := startCopyOf_own host.crates front bodyBytes body decoded presented ownStart
  have end_ := endCopyOf_own host.crates front region bodyBytes body decoded presented total ownEnd
  have one : startCopyOf host.crates presented ≠ none ∨ endCopyOf host.crates presented ≠ none := by
    rcases copies with tail | ⟨magic, copied⟩
    · -- The end copy is the file's own, so it is found from the file's end.
      refine .inr ?_
      have intact : artifact.drop (front.length + region.length) =
          endFrame host.crates bodyBytes := by
        rw [located.split, ← List.append_assoc, ← List.length_append, List.drop_left]
      have found : decodeEndCopyFromFile host.crates presented =
          .ok (front.length + region.length, ⟨body, bodyBytes, bodyBytes.length + 12⟩) := by
        rw [decodeEndCopyFromFile_ok]
        refine ⟨decoded, rfl, presented.take (front.length + region.length), ?_, ?_⟩
        · rw [List.length_take]
          omega
        · rw [← intact, ← tail, List.take_append_drop]
      rw [(endCopyOf_eq_some _ _ _ _).mpr found]
      exact Option.some_ne_none _
    · -- The start copy is in the scan window, whatever became of the notice.
      refine .inl ?_
      have own : range artifact notice.length front.length = startFrame host.crates bodyBytes := by
        rw [located.split, frontEq, List.append_assoc notice]
        exact range_middle notice _ _ _ _ rfl (by rw [List.length_append])
      have magicHere : presented.take 4 = fileMagic := by
        obtain ⟨_, noticed⟩ := encodeNotice_ok _ _ written.noticed
        rw [magic, located.split, frontEq, noticed]
        simp only [List.append_assoc]
        exact List.take_left' rfl
      have noticeLength : (presented.take notice.length).length = notice.length := by
        rw [List.length_take]
        omega
      refine startCopyOf_intact host.crates bodyBytes body decoded presented
        (presented.take notice.length) (presented.drop front.length) ?_ magicHere (by omega)
        (by omega)
      rw [← own, ← copied, range_append _ _ _ (by omega), List.take_append_drop]
  have frontHere : (presented.take front.length).length = front.length := by
    rw [List.length_take]
    omega
  have regionHere : (range presented front.length (front.length + region.length)).length =
      region.length := by
    rw [here.region_length, located.region_length]
  obtain ⟨parsed, read, shown, placed⟩ := readTimelockedArtifactBytes_located host.crates presented
    _ _ _ body bodyBytes here (by simpa only [startCopyAt, frontHere] using start)
    (by simpa only [endCopyAt, frontHere, regionHere] using end_) one
  exact ⟨parsed, _, read, shown.superblock, placed, stripes⟩

/-- An artifact whose metadata fits its format parses, and recovers its
plaintext under its key: as it was written, or damaged within the budget. -/
theorem recovered_after_damage (aead : Aead host.crates)
    (code : ErasureCode host.crates request.payloadRegionParams.rsDataShards.toNat
      request.payloadRegionParams.rsParityShards.toNat)
    (named : request.originalFilename ≠ some "")
    (nameFits : (asBytes (request.originalFilename.getD "")).length ≤ 65535)
    (profileFits : (asBytes request.hardwareProfile).length ≤ 65535)
    (bodyFits : ∀ body bytes, plannedSuperblock request = .ok body →
      encodeSuperblockBody body = .ok bytes → bytes.length ≤ maxSuperblockBodyLenBytes)
    (before after : World) (artifact : Bytes)
    (written : capture (writeTimelockedArtifact host writer request plaintextReader onProgress
      cancellation) before = (.ok ((), artifact), after))
    (addressable : artifact.length < 2 ^ 64)
    (reader : Host) (sameCrates : reader.crates = host.crates) (output : Writer)
    (takes : output.Takes reader) (reporting : Bool) (token : Option CancellationToken)
    (never : NeverCancelled token) (start : World) :
    ∃ original, readTimelockedArtifactBytes host.crates artifact = .ok original ∧
      ∀ presented, presented = artifact ∨ Damaged host.crates original artifact presented →
        ∃ parsed stats stop, capture (recoverFromBytes reader output request.keyBytes reporting
          token presented) start = (.ok ((parsed, stats), (pieces plaintextReader).flatten), stop) := by
  obtain ⟨written', writing, collected, rfl⟩ := (capture_eq_ok _ _ _ _ _).mp written
  obtain ⟨artifact', body, bodyBytes, notice, stream, region, chunks, parts⟩ :=
    writeTimelockedArtifact_ok host writer request plaintextReader onProgress cancellation _ _
      writing
  obtain rfl : artifact = artifact' := collected.trans parts.sink
  have decoded := written_decodes host request plaintextReader parts named nameFits profileFits
    (bodyFits body bodyBytes parts.planned parts.encoded)
  obtain ⟨original, shown, parsedAs, located⟩ :=
    written_parses host request plaintextReader parts body decoded addressable
  refine ⟨original, shown, ?_⟩
  intro presented fate
  -- Undamaged is the special case of no damage at all.
  obtain ⟨parsed, region', read, superblock, placed, damage⟩ :
      ∃ parsed region', readTimelockedArtifactBytes host.crates presented = .ok parsed ∧
        parsed.superblock = body ∧ payloadRegionOf parsed presented = .ok region' ∧
        DamagedRegion host.crates (layoutOf body) region region' := by
    rcases fate with rfl | damage
    · exact ⟨original, region, shown, parsedAs.superblock, located, damagedRegion_refl _ _ _⟩
    · exact damaged_parses host request plaintextReader parts decoded addressable original parsedAs
        presented damage
  obtain ⟨stats, stop, recovered⟩ := recoverFromBytes_damaged host request plaintextReader aead
    code parts presented region' parsed read superblock placed damage reader sameCrates output takes
    reporting token never start
  exact ⟨parsed, stats, stop, recovered⟩

end Recover

section OneStripe
variable (crates : Crates) (artifact damaged : Bytes) (start region stop : Nat)
  (layout : PayloadRegionLayout)

/-- A valid start copy begins at one of the places its magic is found at. -/
theorem startsCopy_place (offset : Nat) (starts : startsCopy crates damaged offset = true) :
    offset ∈ damaged.tails.findIdxs (fun tail => tail.take 4 = startSuperblockMagic) := by
  have magic := (Bool.and_eq_true _ _ |>.mp starts).1
  rw [decide_eq_true_eq, range, Nat.add_sub_cancel_left] at magic
  have inside : offset < damaged.tails.length := by
    have lengths := congrArg List.length magic
    have four : startSuperblockMagic.length = 4 := by decide +kernel
    rw [List.length_take, List.length_drop, four] at lengths
    rw [List.length_tails]
    omega
  rw [List.mem_findIdxs_iff_pos_getElem inside, List.getElem_tails]
  exact decide_eq_true magic

/-- Damage within the budget to a file of one stripe whose start copy survives,
in terms that can be computed. -/
def OneStripeDamaged : Prop :=
  ((readTimelockedArtifactBytes crates artifact).toOption.map fun parsed =>
      (parsed.startSuperblockOffset, parsed.payloadRegionOffset, parsed.endSuperblockOffset,
        layoutOf parsed.superblock)) = some (start, region, stop, layout) ∧
    (readTimelockedArtifactBytes crates artifact).toOption.map (·.superblockBytes) =
      (decodeStartSuperblockCopy crates (damaged.drop start)).toOption.map (·.bodyBytes) ∧
    (damaged.length = artifact.length ∧ damaged.take 4 = artifact.take 4 ∧
      range damaged start region = range artifact start region) ∧
    damaged.tails.findIdxs (fun tail => tail.take 4 = startSuperblockMagic) = [start] ∧
    (decodeEndCopyFromFile crates damaged).toBool = false ∧
    (range damaged region stop).length = (range artifact region stop).length ∧
    chunksExact layout.stripeRecordLen (range artifact region stop) =
      [range artifact region stop] ∧
    chunksExact layout.stripeRecordLen (range damaged region stop) =
      [range damaged region stop] ∧
    (changedRecords layout (range artifact region stop) (range damaged region stop)).length ≤
      layout.rsParityShards.toNat ∧
    ∀ pair ∈ changedRecords layout (range artifact region stop) (range damaged region stop),
      decodeShardRecord crates pair.2 layout.rsShardBytes.toNat = .ok none

theorem damaged_oneStripe
    (told : OneStripeDamaged crates artifact damaged start region stop layout)
    (original : StoredTimelockedArtifact)
    (shown : readTimelockedArtifactBytes crates artifact = .ok original) :
    Damaged crates original artifact damaged := by
  obtain ⟨parsed, own, kept, place, refused, sized, stored, left, few, detected⟩ := told
  rw [shown] at parsed own
  obtain ⟨rfl, rfl, rfl, rfl⟩ := by
    simpa only [Except.toOption, Option.map_some, Option.some.injEq, Prod.mk.injEq] using parsed
  refine ⟨kept.1, .inr kept.2, ⟨sized, ?_⟩, ?_, ?_⟩
  · rw [stored, left]
    exact .cons ⟨few, detected⟩ .nil
  · intro offset _ copy copied
    have found := startsCopy_place crates damaged offset
      ((startsCopy_iff _ _ _).mpr ⟨copy, copied⟩)
    rw [place, List.mem_singleton] at found
    subst found
    rw [copied] at own
    exact ⟨rfl, (Option.some.inj own).symm⟩
  · intro _ copy copied
    rw [copied] at refused
    cases refused

end OneStripe

/-! A small artifact without its data shard and its end copy. -/

def hurtArtifact : Bytes := ((smallArtifact.set 133 9).set 140 77).set 395 0

theorem hurtArtifact_damaged :
    OneStripeDamaged plainCrates smallArtifact hurtArtifact 6 133 269 ⟨1, 1, 64⟩ := by
  unfold OneStripeDamaged
  decide +kernel

theorem recovered_after_damage_small :
    ∃ parsed stats stop, capture (recoverFromBytes (calmHost plainCrates) .memory (zeros 32) false
      none hurtArtifact) (freshWorld .bare) = (.ok ((parsed, stats), [7]), stop) := by
  have bodyFits : ∀ body bytes, plannedSuperblock smallRequest = .ok body →
      encodeSuperblockBody body = .ok bytes → bytes.length ≤ maxSuperblockBodyLenBytes := by
    intro body bytes planned encoded
    rw [plannedSuperblock_small] at planned
    obtain rfl := Except.ok.inj planned
    obtain ⟨_, rfl⟩ := (encodeSuperblockBody_ok _ _).mp encoded
    decide +kernel
  obtain ⟨original, shown, recovers⟩ := recovered_after_damage (calmHost plainCrates) .memory
    smallRequest smallReader false none plainCrates_aead (plainCrates_code 1) (by decide)
    (by decide +kernel) (by decide +kernel) bodyFits (freshWorld .bare) writeSmall.2 smallArtifact
    writeSmall_ok (by decide +kernel) (calmHost plainCrates) rfl .memory trivial false none
    (fun _ absurd => by cases absurd) (freshWorld .bare)
  exact recovers hurtArtifact
    (.inr (damaged_oneStripe _ _ _ _ _ _ _ hurtArtifact_damaged original shown))

end DamageRecovery
