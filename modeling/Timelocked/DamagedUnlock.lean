import Timelocked.Inspection

/-!
Using what is left of an artifact. Damage within the repair budget changes
nothing about an unlock: the damaged file holds what the lock was given under
the same key, so it comes back exactly where the undamaged one would. Nor does
it change what is reported of the file, except for the notice.
-/
namespace DamagedUnlock
open ByteCodec RunRules Blocks Base PathText FileTree Superblock Notice ArtifactReader
  PayloadRegion ProtectedStream ArtifactWriter Recovery DamageRecovery LockDifficulty Lock
  LockedArtifact Unlock RoundTrip Inspection

section Damage
variable (host : LockHost) (aead : Aead host.crates)
  (code : ErasureCode host.crates defaultRsDataShards.toNat defaultRsParityShards.toNat)
  (staged : StagedLockInput) (request : LockRequest) (difficulty : ResolvedLockDifficulty)
  (artifact : Bytes) (wanted : LockArtifactRequest)
  (plaintextReader : PlaintextReader wanted.aeadChunkSizeBytes.toNat) (body : SuperblockBody)
  (bodyBytes notice stream region : Bytes) (chunks : List Chunk)
  (wrote : LockWrote host staged request difficulty artifact wanted plaintextReader body bodyBytes
    notice stream region chunks)
  (addressable : artifact.length < 2 ^ 64) (original : StoredTimelockedArtifact)
  (read : readTimelockedArtifactBytes host.crates artifact = .ok original) (presented : Bytes)
  (damage : Damaged host.crates original artifact presented)
include aead code wrote addressable read damage

/-- A damaged artifact opens with the superblock it was written with. -/
theorem lockWrote_opens :
    original.superblock = body ∧ ∃ parsed, parsed.superblock = body ∧
      Opens host.crates parsed wanted.keyBytes staged.plaintextStaging presented := by
  obtain ⟨_, _, written⟩ := wrote.written
  obtain ⟨original', read', parsedAs, _⟩ :=
    written_parses host.toHost wanted plaintextReader written body wrote.decoded addressable
  rw [read] at read'
  obtain rfl := Except.ok.inj read'
  obtain ⟨parsed, region', readHere, superblock, placed, stripes⟩ := damaged_parses host.toHost
    wanted plaintextReader written wrote.decoded addressable original parsedAs presented damage
  obtain ⟨_, _, planned⟩ := plannedSuperblock_ok wanted body written.planned
  have layoutEq : layoutOf body = wanted.payloadRegionParams := by
    rw [planned]
    rfl
  refine ⟨parsedAs.superblock, parsed, superblock, readHere, region', stream, placed, ?_, ?_⟩
  · -- The repair gives back the stream that the lock sealed.
    rw [superblock]
    rw [layoutEq] at stripes ⊢
    rw [← wrote.dataShards, ← wrote.parityShards] at code
    exact reconstructPayloadRegion_damaged host.crates _ code _ _ _ _ written.stream_length
      written.striped stripes
  · intro reader output reporting token start sameCrates takes never
    obtain ⟨stats, stop, decrypted, length, delivered⟩ := decryptRecovered_written host.toHost
      wanted plaintextReader aead written parsed superblock reader sameCrates output takes reporting
      token never start
    rw [← wrote.flat]
    exact ⟨stats, stop, decrypted, length.trans written.plaintext_length.symm, delivered⟩

/-- It holds what the lock was given. -/
theorem lockWrote_holds :
    Holds host.crates request.password staged.originalFilename staged.plaintextStaging
      presented := by
  obtain ⟨_, parsed, superblock, opens⟩ := lockWrote_opens host aead code staged request difficulty
    artifact wanted plaintextReader body bodyBytes notice stream region chunks wrote addressable
    original read presented damage
  refine ⟨parsed, wanted.keyBytes, opens, ?_, ?_, ?_⟩
  · rw [superblock]
    exact wrote.originalFilename
  · rw [superblock]
    exact wrote.protected_
  · rw [superblock]
    exact wrote.keyed

end Damage

section Locked
variable (host : LockHost) (trusted : Trusted host)
  (code : ErasureCode host.crates defaultRsDataShards.toNat defaultRsParityShards.toNat)
  (onProgress : Bool) (cancellation : Option CancellationToken) (request : LockRequest)
  (bits : request.modulusBits < 65536) (response : LockResponse) (before after : World)
  (locked : Lock.executeWithCancel host onProgress cancellation request before =
    (.ok response, after))
  (artifact : Bytes) (left : after.tree.readFile host.cwd response.outputPath = .ok artifact)
  (addressable : artifact.length < 2 ^ 64) (reader : Host)
  (sameCrates : reader.crates = host.crates) (healthy : reader.Healthy)
include trusted code bits locked left addressable sameCrates healthy

/-- Whatever a lock accepted comes back from its damaged artifact, with the same
password, exactly where it comes back from the undamaged one. -/
theorem damaged_unlocks (reporting : Bool) (token : Option CancellationToken)
    (never : NeverCancelled token) (provider : Option PasswordProvider)
    (answers : Answers provider request.password) :
    ∃ original plaintext name,
      readTimelockedArtifactBytes host.crates artifact = .ok original ∧
      sourceHolds host before.tree
        (resolveInputSource (before.tree.pathExists host.cwd) request.input) =
          some (plaintext, name) ∧
      ∀ presented, Damaged host.crates original artifact presented →
        ∀ input, input ≠ [] → ∀ start : World,
          start.tree.readFile reader.cwd input = .ok presented →
            (Recovers reader plaintext (executeWithCancelAndPasswordProvider reader reporting token
                provider (plainRequest input) start) ↔
              Unlockable host (resolveInputSource (before.tree.pathExists host.cwd) request.input)
                reader start.tree input) := by
  obtain ⟨staged, difficulty, _, _, _, _, _, _, _, _, held, _, wanted, plaintextReader, body, bodyBytes,
    notice, stream, region, chunks, wrote⟩ := executeWithCancel_wrote host trusted onProgress
    cancellation request bits response before after locked artifact left
  obtain ⟨_, _, written⟩ := wrote.written
  obtain ⟨original, read, _, _⟩ :=
    written_parses host.toHost wanted plaintextReader written body wrote.decoded addressable
  refine ⟨original, _, _, read, held, ?_⟩
  intro presented damage input present start there
  have holds := lockWrote_holds host trusted.aead code staged request difficulty artifact wanted
    plaintextReader body bodyBytes notice stream region chunks wrote addressable original read
    presented damage
  rw [← sameCrates] at holds
  exact holds_unlocks host reader healthy reporting token never provider request.password answers
    _ request.input before.tree _ _ held presented holds input present start there

/-- Apart from the notice, inspection and verification answer for a damaged
artifact as for the undamaged one. -/
theorem damaged_as_reported (rate : Option UInt64) :
    ∃ original, readTimelockedArtifactBytes host.crates artifact = .ok original ∧
      ∀ presented, Damaged host.crates original artifact presented →
        ∀ input (start : World), start.tree.readFile reader.cwd input = .ok presented →
          (∃ shown inspected, inspect reader ⟨input, rate⟩ start = (.ok shown, inspected) ∧
            { shown with header := { shown.header with about := original.header.about } } =
              inspectionOf ⟨input, rate⟩ original) ∧
          ∃ checked verified, verify reader input start = (.ok checked, verified) ∧
            checked.payloadPlaintextBytes = response.payloadBytes := by
  obtain ⟨staged, difficulty, _, _, _, rfl, _, _, _, _, _, _, wanted, plaintextReader, body, bodyBytes,
    notice, stream, region, chunks, wrote⟩ := executeWithCancel_wrote host trusted onProgress
    cancellation request bits response before after locked artifact left
  obtain ⟨_, _, written⟩ := wrote.written
  obtain ⟨original, read, _, _⟩ :=
    written_parses host.toHost wanted plaintextReader written body wrote.decoded addressable
  refine ⟨original, read, ?_⟩
  intro presented damage input start there
  obtain ⟨originalBody, parsed, superblock, opens⟩ := lockWrote_opens host trusted.aead code staged
    request difficulty artifact wanted plaintextReader body bodyBytes notice stream region chunks
    wrote addressable original read presented damage
  rw [← sameCrates] at opens read
  constructor
  · refine ⟨_, _, inspect_ready reader healthy presented parsed opens.read ⟨input, rate⟩ start there,
      ?_⟩
    have header := readTimelockedArtifactBytes_header reader.crates _ parsed opens.read
    have originalHeader := readTimelockedArtifactBytes_header reader.crates _ original read
    simp only [inspectionOf, header, originalHeader, superblock, originalBody,
      headerFromSuperblock]
  · obtain ⟨checked, verified, checks, size⟩ := opens_verifies reader healthy presented parsed
      opens.read wanted.keyBytes _ opens input start there
    rw [superblock] at size
    exact ⟨checked, verified, checks, size.trans wrote.payloadBytes⟩

end Locked

/-! A lock of one byte, whose artifact loses two shards and its end copy. -/

def gfDouble (element : UInt8) : UInt8 :=
  if element < 128 then element <<< 1 else element <<< 1 ^^^ 29

/-- The codec's two parity coefficients of a first data shard. -/
def gfTimes27 (element : UInt8) : UInt8 :=
  let eight := gfDouble (gfDouble (gfDouble element))
  gfDouble eight ^^^ eight ^^^ gfDouble element ^^^ element

def gfTimes28 (element : UInt8) : UInt8 :=
  let four := gfDouble (gfDouble element)
  gfDouble (gfDouble four) ^^^ gfDouble four ^^^ four

def mendedShard : Bytes :=
  streamBytes 0 [⟨1, 1, zeros 24, 120 :: (zeros 16).1⟩] ++ (zeros 6).1

def mendedStripe : List Bytes :=
  [mendedShard, (zeros 64).1, (zeros 64).1, (zeros 64).1, mendedShard.map gfTimes27,
    mendedShard.map gfTimes28]

/-- The smallest crates, with the codec as it works on this one stripe. -/
def mendingCrates : Crates :=
  { plainCrates with
    rsEncode := fun _ _ shards =>
      if shards = mendedStripe.take 4 ++ [(zeros 64).1, (zeros 64).1] then .ok mendedStripe
      else .error (.other "another stripe")
    rsReconstruct := fun _ _ received =>
      if received.countP Option.isSome < 4 then .error .tooFewShardsPresent
      else .ok (mendedStripe.map some) }

theorem mendingCrates_code : ErasureCode mendingCrates 4 2 := by
  have known : ∀ shards encoded, mendingCrates.rsEncode 4 2 shards = .ok encoded →
      shards = mendedStripe.take 4 ++ [(zeros 64).1, (zeros 64).1] ∧ encoded = mendedStripe := by
    intro shards encoded encoding
    simp only [mendingCrates] at encoding
    split at encoding
    · rename_i same
      exact ⟨same, (Except.ok.inj encoding).symm⟩
    · cases encoding
  refine ⟨⟨?_⟩, ?_⟩
  · intro shards encoded encoding _
    obtain ⟨rfl, rfl⟩ := known shards encoded encoding
    refine ⟨by decide +kernel, by decide +kernel, ?_⟩
    intro width widths
    obtain rfl : (zeros 64).1.length = width := widths _ (by simp)
    decide +kernel
  · intro shards encoded received encoding _ _ many
    obtain ⟨_, rfl⟩ := known shards encoded encoding
    simp only [mendingCrates, if_neg (Nat.not_lt.mpr many)]

def mendingHost : LockHost := { calmLockHost [120] with toHost := calmHost mendingCrates }

theorem mendingHost_trusted : Trusted mendingHost where
  aead := ⟨plainCrates_aead.opens⟩
  code := by
    refine ⟨mendingCrates_code.toSystematicCode, fun shards encoded encoding count => ?_⟩
    obtain ⟨sized, _⟩ := mendingCrates_code.systematic shards encoded encoding count
    refine mendingCrates_code.determines shards encoded _ encoding count ?_ ?_
    · exact List.forall₂_map_right_iff.mpr (List.forall₂_same.mpr fun _ _ => .inl rfl)
    · rw [List.countP_map]
      simp [Function.comp_def, sized]
  prime := PuzzleService.smoothDraws_prime
  sized := PuzzleService.smoothDraws_sized
  readsBack _ contents := fullReads_pieces _ _ contents (by decide) (Nat.le_refl _)

def lockMended : Except Error LockResponse × World :=
  Lock.executeWithCancel mendingHost false none stdinRequest (freshWorld .bare)

theorem lockMended_runs :
    lockMended.1 = .ok lockedStdin ∧
      lockMended.2.tree.readFile [] ["o.timelocked".toList] = .ok (leftBy lockMended) ∧
      (leftBy lockMended).length < 2 ^ 64 := by
  decide +kernel

theorem lockMended_ok : lockMended = (.ok lockedStdin, lockMended.2) := by
  rw [← lockMended_runs.1]

def brokenArtifact : Bytes :=
  (((leftBy lockMended).set 500 9).set 772 1).set 1300 0

theorem brokenArtifact_damaged :
    OneStripeDamaged mendingCrates (leftBy lockMended) brokenArtifact 105 500 908 ⟨4, 2, 64⟩ := by
  unfold OneStripeDamaged
  decide +kernel

/-- What was piped in comes back although two shards and the end copy are gone. -/
theorem damaged_unlocks_broken :
    ∃ plaintext name, sourceHolds mendingHost Tree.bare .stdin = some (plaintext, name) ∧
      Recovers (calmHost mendingCrates) plaintext (executeWithCancelAndPasswordProvider
        (calmHost mendingCrates) false none none (plainRequest [['a']])
        (freshWorld (loneFile brokenArtifact))) := by
  obtain ⟨_, left, short⟩ := lockMended_runs
  have kind : resolveInputSource (Tree.bare.pathExists []) "-" = .stdin := by decide +kernel
  obtain ⟨original, plaintext, name, read, held, unlocks⟩ := damaged_unlocks mendingHost
    mendingHost_trusted mendingCrates_code false none stdinRequest (by decide) lockedStdin
    (freshWorld .bare) lockMended.2 lockMended_ok (leftBy lockMended) left short
    (calmHost mendingCrates) rfl (fun _ => rfl) false none neverCancelled_none none
    (fun _ absent => by cases absent)
  change sourceHolds mendingHost Tree.bare (resolveInputSource (Tree.bare.pathExists []) "-") =
    some (plaintext, name) at held
  rw [kind] at held
  refine ⟨plaintext, name, held, ?_⟩
  have there : (freshWorld (loneFile brokenArtifact)).tree.readFile (calmHost mendingCrates).cwd
      [['a']] = .ok brokenArtifact := by
    rfl
  have damage := damaged_oneStripe _ _ _ _ _ _ _ brokenArtifact_damaged original read
  have unlocked := unlocks brokenArtifact damage [['a']] (by decide)
    (freshWorld (loneFile brokenArtifact)) there
  rw [unlocked]
  change Unlockable mendingHost (resolveInputSource (Tree.bare.pathExists []) "-") _ _ _
  rw [kind, Unlockable]
  decide +kernel

/-- Its start copy and its repaired stream are enough to verify it. -/
theorem damaged_as_reported_broken :
    ∃ checked verified, verify (calmHost mendingCrates) [['a']]
      (freshWorld (loneFile brokenArtifact)) = (.ok checked, verified) ∧
        checked.payloadPlaintextBytes = 1 := by
  obtain ⟨_, left, short⟩ := lockMended_runs
  obtain ⟨original, read, reported⟩ := damaged_as_reported mendingHost mendingHost_trusted
    mendingCrates_code false none stdinRequest (by decide) lockedStdin (freshWorld .bare)
    lockMended.2 lockMended_ok (leftBy lockMended) left short (calmHost mendingCrates)
    rfl (fun _ => rfl) none
  have there : (freshWorld (loneFile brokenArtifact)).tree.readFile (calmHost mendingCrates).cwd
      [['a']] = .ok brokenArtifact := by
    rfl
  have damage := damaged_oneStripe _ _ _ _ _ _ _ brokenArtifact_damaged original read
  exact (reported brokenArtifact damage [['a']] (freshWorld (loneFile brokenArtifact)) there).2

def unlockBroken : Except Error UnlockResponse × World :=
  executeWithCancelAndPasswordProvider (calmHost mendingCrates) false none none
    (plainRequest [['a']]) (freshWorld (loneFile brokenArtifact))

/-- Its unlock delivers the size that is reported of it. -/
theorem unlocked_as_reported_broken :
    ∃ shown inspected checked verified,
      inspect (calmHost mendingCrates) ⟨[['a']], none⟩ (freshWorld (loneFile brokenArtifact)) =
        (.ok shown, inspected) ∧
      verify (calmHost mendingCrates) [['a']] (freshWorld (loneFile brokenArtifact)) =
        (.ok checked, verified) ∧
      shown.header.payloadPlaintextBytes.toNat = 1 ∧ checked.payloadPlaintextBytes.toNat = 1 := by
  have unlocked : unlockBroken.1 = .ok ⟨.text "x", 1⟩ := by decide +kernel
  have success : unlockBroken = (.ok ⟨.text "x", 1⟩, unlockBroken.2) := by
    rw [← unlocked]
  obtain ⟨shown, inspected, checked, verified, ran, checks, size, whole, _⟩ :=
    unlocked_as_reported (calmHost mendingCrates) false none none (plainRequest [['a']])
      ⟨.text "x", 1⟩ (freshWorld (loneFile brokenArtifact)) unlockBroken.2 success
      (calmHost mendingCrates) rfl rfl (fun _ => rfl) (freshWorld (loneFile brokenArtifact)) rfl
      none
  exact ⟨shown, inspected, checked, verified, ran, checks, size, whole⟩

end DamagedUnlock
