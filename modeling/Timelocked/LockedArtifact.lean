import Timelocked.DamageRecovery
import Timelocked.LockEffects

/-!
What a successful lock leaves at its output path: an artifact that holds what
the input source held, under a key that the puzzle, and the passphrase if there
is one, give back.
-/
namespace LockedArtifact
open ByteCodec RunRules Base PathText FileTree PasswordProtection Superblock ArtifactReader
  PayloadRegion ProtectedStream ArtifactWriter Recovery DamageRecovery LockDifficulty Lock
  LockEffects

def unwrapFileKey (crates : Crates) (wrappedKey mask : Block 32)
    (protection : Option PasswordProtectionMetadata) (passphrase : String) :
    Except Error (Block 32) :=
  match protection with
  | none => .ok (xor32 wrappedKey mask)
  | some metadata => unwrapFileKeyWithPassword crates wrappedKey mask passphrase metadata.params

def artifactKey (crates : Crates) (body : SuperblockBody) (passphrase : String) :
    Except Error (Block 32) :=
  unwrapFileKey crates body.timelockMaterial.wrappedKey
    (PuzzleService.deriveKeyMask crates (RepeatedSquaring.squarings body.timelockMaterial.modulusN
      body.iterations.toNat body.timelockMaterial.baseA)) body.passwordProtection passphrase

/-- An artifact that parses, and whose stream every uncancelled reader that
takes the bytes decrypts under this key to this plaintext. -/
structure Opens (crates : Crates) (parsed : StoredTimelockedArtifact) (key : Block 32)
    (plaintext artifact : Bytes) : Prop where
  read : readTimelockedArtifactBytes crates artifact = .ok parsed
  stream : ∃ region stream,
    payloadRegionOf parsed artifact = .ok region ∧
    reconstructPayloadRegion crates region parsed.superblock.protectedStreamLen
      (layoutOf parsed.superblock) = .ok stream ∧
    ∀ (reader : Host) (output : Writer) (reporting : Bool) (token : Option CancellationToken)
      (start : World), reader.crates = crates → output.Takes reader → NeverCancelled token →
      ∃ stats stop, decryptRecovered reader parsed output key reporting token stream start =
          (.ok stats, stop) ∧
        stats.plaintextBytes = plaintext.length ∧ Wrote plaintext start stop

/-- What opens under some key follows the grammar and has the recorded length. -/
theorem Opens.framed {crates : Crates} {parsed : StoredTimelockedArtifact} {key : Block 32}
    {plaintext artifact : Bytes} (opens : Opens crates parsed key plaintext artifact) :
    ∃ region frames, payloadRegionOf parsed artifact = .ok region ∧
      reconstructPayloadRegion crates region parsed.superblock.protectedStreamLen
        (layoutOf parsed.superblock) = .ok (streamBytes 0 frames) ∧
      Stream parsed.superblock.aeadChunkSizeBytes 0 frames ∧
      plaintextTotal frames = parsed.superblock.payloadPlaintextBytes.toNat := by
  obtain ⟨region, stream, located, reconstructed, decrypts⟩ := opens.stream
  obtain ⟨stats, stop, decrypted, _, _⟩ := decrypts (calmHost crates) .memory false none
    (freshWorld .bare) rfl trivial neverCancelled_none
  obtain ⟨_, frames, _, _, framed, _, split, _, whole, _⟩ :=
    decryptRecovered_ok _ _ _ _ _ _ _ _ _ _ decrypted
  rw [split] at reconstructed
  exact ⟨region, frames, located, reconstructed, framed, whole⟩

/-- It opens under the key behind its puzzle and its password. -/
structure Holds (crates : Crates) (password name : Option String) (plaintext artifact : Bytes) :
    Prop where
  opens : ∃ parsed key, Opens crates parsed key plaintext artifact ∧
    parsed.superblock.originalFilename = name ∧
    parsed.superblock.passwordProtection.isSome = password.isSome ∧
    artifactKey crates parsed.superblock (password.getD "") = .ok key

/-- What the outside code is trusted with. -/
structure Trusted (host : LockHost) : Prop where
  aead : Aead host.crates
  code : IntactCode host.crates defaultRsDataShards.toNat defaultRsParityShards.toNat
  prime : host.draws.Prime
  sized : host.draws.Sized
  readsBack : ∀ history contents, (pieces (host.readBack history contents)).flatten = contents

def sourceHolds (host : LockHost) (tree : Tree) : InputSource → Option (Bytes × Option String)
  | .stdin => some (host.stdin, none)
  | .file path =>
      match tree.readFile host.cwd path with
      | .ok contents => some (contents, (fileName path).map String.ofList)
      | .error _ => none
  | .text text => some (asBytes text, none)

section Stage
variable (host : LockHost)

theorem copyInputToStaging_ok (input : InputSource) (before after : World)
    (plaintextBytes : UInt64) (originalFilename : Option String) (empty : before.sink = [])
    (copied : copyInputToStaging host input before =
      (.ok (plaintextBytes, originalFilename), after)) :
    sourceHolds host before.tree input = some (after.sink, originalFilename) ∧
      plaintextBytes = UInt64.ofNat after.sink.length := by
  have called := call_quiet host.toHost
  -- All three sources write once and flush; the file then holds what was written.
  have filled : ∀ (bytes : Bytes) (w₁ w₂ w₃ : World), w₁.sink = [] →
      writeAll host.toHost .tempFile bytes w₁ = (.ok (), w₂) →
      call host.toHost w₂ = (.ok (), w₃) → w₃.sink = bytes := by
    intro bytes w₁ w₂ w₃ start wrote flushed
    have written := wrote_quiet (writeAll_ok _ _ _ _ _ wrote) (Run.keeps_outcome called flushed)
    rw [written.sink, start, List.nil_append]
  cases input with
  | stdin =>
      obtain ⟨_, w₁, opened, s₁⟩ := (Run.bind_eq_ok _ _ _ _ _).mp copied
      obtain ⟨_, w₂, wrote, s₂⟩ := (Run.bind_eq_ok _ _ _ _ _).mp s₁
      obtain ⟨_, w₃, flushed, returned⟩ := (Run.bind_eq_ok _ _ _ _ _).mp s₂
      cases returned
      have start : w₁.sink = [] := (Run.keeps_outcome called opened).sink.trans empty
      rw [filled _ w₁ w₂ _ start wrote flushed]
      exact ⟨rfl, rfl⟩
  | file path =>
      obtain ⟨contents, w₁, read, s₁⟩ := (Run.bind_eq_ok _ _ _ _ _).mp copied
      obtain ⟨_, w₂, wrote, s₂⟩ := (Run.bind_eq_ok _ _ _ _ _).mp s₁
      obtain ⟨_, w₃, flushed, returned⟩ := (Run.bind_eq_ok _ _ _ _ _).mp s₂
      cases returned
      obtain ⟨there, quiet⟩ := readFile_eq_ok host.toHost path contents before w₁ read
      rw [filled _ w₁ w₂ _ (quiet.sink.trans empty) wrote flushed]
      refine ⟨?_, rfl⟩
      rw [sourceHolds, there]
  | text text =>
      obtain ⟨_, w₂, wrote, s₂⟩ := (Run.bind_eq_ok _ _ _ _ _).mp copied
      obtain ⟨_, w₃, flushed, returned⟩ := (Run.bind_eq_ok _ _ _ _ _).mp s₂
      cases returned
      rw [filled _ before w₂ _ empty wrote flushed]
      exact ⟨rfl, rfl⟩

/-- A source that was a file was there before any directory was made. -/
theorem sourceHolds_ungrown (before after : Tree) (grown : Tree.Grown before after) (input : String)
    (held : Bytes × Option String)
    (holds : sourceHolds host after (resolveInputSource (before.pathExists host.cwd) input) =
      some held) :
    sourceHolds host before (resolveInputSource (before.pathExists host.cwd) input) = some held := by
  unfold resolveInputSource at holds ⊢
  by_cases dash : input = "-"
  · rw [if_pos dash] at holds ⊢
    exact holds
  · rw [if_neg dash] at holds ⊢
    by_cases there : before.pathExists host.cwd (ofText input) = true
    · rw [if_pos there] at holds ⊢
      dsimp only [sourceHolds] at holds ⊢
      cases read : after.readFile host.cwd (ofText input) with
      | error kind =>
          rw [read] at holds
          cases holds
      | ok contents =>
          rw [read] at holds
          rw [Tree.readFile_ungrown _ _ grown _ _ _ there read]
          exact holds
    · rw [if_neg there] at holds ⊢
      exact holds

/-- What was staged is what the source held when the run began. -/
theorem resolveAndStageInput_ok (cancellation : Option CancellationToken) (input : String)
    (explicitOutput : Option Path) (staged : StagedLockInput) (before after : World)
    (success : resolveAndStageInput host cancellation input explicitOutput before =
      (.ok staged, after)) :
    ∃ source, source = resolveInputSource (before.tree.pathExists host.cwd) input ∧
      resolveLockOutputPath source explicitOutput = .ok staged.outputPath ∧
      before.tree.pathExists host.cwd staged.outputPath = false ∧
      sourceHolds host before.tree source =
        some (staged.plaintextStaging, staged.originalFilename) ∧
      staged.plaintextBytes = UInt64.ofNat staged.plaintextStaging.length := by
  obtain ⟨tree, _, observed, s₁⟩ := (Run.bind_eq_ok _ _ _ _ _).mp success
  cases observed
  obtain ⟨outputPath, resolved, s₂⟩ := (Run.lift_bind_eq_ok _ _ _ _ _).mp s₁
  obtain ⟨_, free, s₃⟩ := (Run.lift_bind_eq_ok _ _ _ _ _).mp s₂
  obtain ⟨_, w₁, made, s₄⟩ := (Run.bind_eq_ok _ _ _ _ _).mp s₃
  obtain ⟨_, w₂, polled, s₅⟩ := (Run.bind_eq_ok _ _ _ _ _).mp s₄
  obtain ⟨_, w₃, opened, s₆⟩ := (Run.bind_eq_ok _ _ _ _ _).mp s₅
  obtain ⟨⟨plaintextBytes, originalFilename⟩, w₄, copied, s₇⟩ := (Run.bind_eq_ok _ _ _ _ _).mp s₆
  obtain ⟨contents, _, held, s₈⟩ := (Run.bind_eq_ok _ _ _ _ _).mp s₇
  cases held
  obtain ⟨_, _, _, returned⟩ := (Run.bind_eq_ok _ _ _ _ _).mp s₈
  cases returned
  -- Making the output's parent only adds directories, so the source reads as it did before.
  have grown := steady_grown.trans _ _ _ (steady_grown.trans _ _ _
    (Run.keeps_outcome (ensureParentDirExists_steady steady_grown makes_grown host outputPath) made)
    (Run.keeps_outcome (ensureNotCancelled_steady steady_grown cancellation) polled))
    (Run.keeps_outcome (newTempIn_steady steady_grown host.toHost _) opened)
  obtain ⟨held, length⟩ := copyInputToStaging_ok host _ w₃ w₄ plaintextBytes originalFilename
    (newTempIn_empty _ _ _ _ opened) copied
  rw [rejectIf_eq_ok] at free
  exact ⟨_, rfl, resolved, by simpa using free, sourceHolds_ungrown host _ _ grown input _ held,
    length⟩

end Stage

section Payload
variable (host : LockHost)

/-- The key material a superblock gets gives the file key back. -/
theorem keyProtectionMaterial_ok (fileKey mask : Block 32) (password : Option String)
    (wrappedKey : Block 32) (protection : Option PasswordProtectionMetadata) (before after : World)
    (success : keyProtectionMaterial host fileKey mask password before =
      (.ok (wrappedKey, protection), after)) :
    protection.isSome = password.isSome ∧
      (∀ metadata ∈ protection, metadata.params.salt.length = defaultPasswordSaltLen) ∧
      unwrapFileKey host.crates wrappedKey mask protection (password.getD "") = .ok fileKey := by
  cases password with
  | none =>
      cases success
      refine ⟨rfl, by simp, ?_⟩
      rw [unwrapFileKey, wrapFileKeyWithTimelockMask, xor32_xor32]
  | some passphrase =>
      obtain ⟨salt, w₁, drawn, s₁⟩ := (Run.bind_eq_ok _ _ _ _ _).mp success
      obtain ⟨params, chosen, s₂⟩ := (Run.lift_bind_eq_ok _ _ _ _ _).mp s₁
      obtain ⟨⟨wrapped, metadata⟩, wrapping, returned⟩ := (Run.lift_bind_eq_ok _ _ _ _ _).mp s₂
      cases returned
      obtain ⟨_, _, w₁⟩ := (bind_eq_ok _ _ _).mp wrapping
      obtain ⟨_, underPassword, returned⟩ := (bind_eq_ok _ _ _).mp w₁
      cases returned
      obtain ⟨spelled, _⟩ := (PasswordProtectionParams.checked_ok _ _ _ _ _).mp chosen
      refine ⟨rfl, ?_, ?_⟩
      · rintro _ ⟨⟩
        rw [PasswordProtectionMetadata.timelockPlusArgon2idV1, spelled]
        exact salt.2
      · exact unwrapFileKeyWithPassword_wrap host.crates fileKey wrappedKey mask passphrase params
          underPassword

/-- The body of a lock's superblock is far from its maximum size. -/
theorem lockBody_small (body : SuperblockBody)
    (nameFits : body.filenameBytes.length ≤ 65535)
    (profileFits : (asBytes body.hardwareProfile).length ≤ 65535)
    (modulus : beLength body.timelockMaterial.modulusN ≤ 8192)
    (base : beLength body.timelockMaterial.baseA ≤ 8192)
    (salted : ∀ metadata ∈ body.passwordProtection,
      metadata.params.salt.length = defaultPasswordSaltLen) :
    (layout body body.canonical).length ≤ maxSuperblockBodyLenBytes := by
  have password : (encodePassword body.passwordProtection).length ≤ 48 := by
    cases protection : body.passwordProtection with
    | none => exact Nat.zero_le _
    | some metadata =>
        rw [encodePassword_length, salted metadata (by rw [protection]; rfl)]
        decide
  rw [canonical_length, maxSuperblockBodyLenBytes]
  omega

/-- The artifact a lock of this input wrote, by the request its writer got. -/
structure LockWrote (staged : StagedLockInput) (request : LockRequest)
    (difficulty : ResolvedLockDifficulty) (artifact : Bytes) (wanted : LockArtifactRequest)
    (plaintextReader : PlaintextReader wanted.aeadChunkSizeBytes.toNat) (body : SuperblockBody)
    (bodyBytes notice stream region : Bytes) (chunks : List Chunk) : Prop where
  written : ∃ before after, Written host.toHost wanted plaintextReader artifact before after body
    bodyBytes notice stream region chunks
  decoded : decodeSuperblockBody bodyBytes = .ok body
  dataShards : wanted.payloadRegionParams.rsDataShards = defaultRsDataShards
  parityShards : wanted.payloadRegionParams.rsParityShards = defaultRsParityShards
  flat : (pieces plaintextReader).flatten = staged.plaintextStaging
  iterations : body.iterations = difficulty.iterations
  hardwareProfile : body.hardwareProfile = difficulty.hardwareProfileId
  targetSeconds : body.targetSeconds = difficulty.targetSeconds
  payloadBytes : body.payloadPlaintextBytes = staged.plaintextBytes
  originalFilename : body.originalFilename = staged.originalFilename
  protected_ : body.passwordProtection.isSome = request.password.isSome
  keyed : artifactKey host.crates body (request.password.getD "") = .ok wanted.keyBytes

/-- What a lock wrote holds what was staged, under the name that was recorded. -/
theorem LockWrote.holds (trusted : Trusted host) {staged : StagedLockInput} {request : LockRequest}
    {difficulty : ResolvedLockDifficulty} {artifact : Bytes} {wanted : LockArtifactRequest}
    {plaintextReader : PlaintextReader wanted.aeadChunkSizeBytes.toNat} {body : SuperblockBody}
    {bodyBytes notice stream region : Bytes} {chunks : List Chunk}
    (wrote : LockWrote host staged request difficulty artifact wanted plaintextReader body bodyBytes
      notice stream region chunks) (addressable : artifact.length < 2 ^ 64) :
    Holds host.crates request.password staged.originalFilename staged.plaintextStaging
      artifact := by
  obtain ⟨before, after, written⟩ := wrote.written
  obtain ⟨_, _, planned⟩ := plannedSuperblock_ok wanted body written.planned
  obtain ⟨parsed, read, parsedAs, located⟩ :=
    written_parses host.toHost wanted plaintextReader written body wrote.decoded addressable
  have superblock := parsedAs.superblock
  have layoutEq : layoutOf body = wanted.payloadRegionParams := by
    rw [planned]
    rfl
  have code := trusted.code
  rw [← wrote.dataShards, ← wrote.parityShards] at code
  -- The region gives the stream, the stream the plaintext, the superblock name and key.
  refine ⟨parsed, wanted.keyBytes, ⟨read, region, stream, located, ?_, ?_⟩, ?_, ?_, ?_⟩
  · rw [superblock, layoutEq]
    exact reconstructPayloadRegion_intact host.crates _ code _ _ _ written.stream_length
      written.striped
  · intro other output reporting token start sameCrates takes never
    rw [← wrote.flat]
    obtain ⟨stats, stop, decrypted, length, emitted⟩ := decryptRecovered_written host.toHost wanted
      plaintextReader trusted.aead written parsed superblock other sameCrates output takes reporting
      token never start
    exact ⟨stats, stop, decrypted, length.trans written.plaintext_length.symm, emitted⟩
  · rw [superblock]
    exact wrote.originalFilename
  · rw [superblock]
    exact wrote.protected_
  · rw [superblock]
    exact wrote.keyed

/-- The artifact a lock leaves in its temporary file. -/
theorem writePayloadArtifacts_wrote (trusted : Trusted host) (onProgress : Bool)
    (cancellation : Option CancellationToken) (staged : StagedLockInput)
    (request : LockRequest) (difficulty : ResolvedLockDifficulty)
    (bits : request.modulusBits < 65536)
    (named : staged.originalFilename ≠ some "")
    (nameFits : (asBytes (staged.originalFilename.getD "")).length ≤ 65535)
    (profileFits : (asBytes difficulty.hardwareProfileId).length ≤ 65535)
    (before after : World)
    (success : writePayloadArtifacts host onProgress cancellation staged request difficulty before =
      (.ok (), after)) :
    ∃ wanted plaintextReader body bodyBytes notice stream region chunks,
      LockWrote host staged request difficulty after.sink wanted plaintextReader body bodyBytes
        notice stream region chunks := by
  obtain ⟨_, w₁, _, s₁⟩ := (Run.bind_eq_ok _ _ _ _ _).mp success
  obtain ⟨fileKey, w₂, _, s₂⟩ := (Run.bind_eq_ok _ _ _ _ _).mp s₁
  obtain ⟨_, _, s₃⟩ := (Run.lift_bind_eq_ok _ _ _ _ _).mp s₂
  obtain ⟨_, w₃, _, s₄⟩ := (Run.bind_eq_ok _ _ _ _ _).mp s₃
  obtain ⟨puzzle, w₄, created, s₅⟩ := (Run.bind_eq_ok _ _ _ _ _).mp s₄
  obtain ⟨⟨wrappedKey, protection⟩, w₅, wrapped, s₆⟩ := (Run.bind_eq_ok _ _ _ _ _).mp s₅
  obtain ⟨_, w₆, _, s₇⟩ := (Run.bind_eq_ok _ _ _ _ _).mp s₆
  obtain ⟨streamLen, _, s₈⟩ := (Run.lift_bind_eq_ok _ _ _ _ _).mp s₇
  obtain ⟨_, w₇, opened, s₉⟩ := (Run.bind_eq_ok _ _ _ _ _).mp s₈
  obtain ⟨_, w₈, again, s₁₀⟩ := (Run.bind_eq_ok _ _ _ _ _).mp s₉
  rw [Run.read_bind, Run.read_bind] at s₁₀
  obtain ⟨_, w₉, writing, flushed⟩ := (Run.bind_eq_ok _ _ _ _ _).mp s₁₀
  clear success s₁ s₂ s₃ s₄ s₅ s₆ s₇ s₈ s₉ s₁₀
  obtain ⟨artifact, body, bodyBytes, notice, stream, region, chunks, written⟩ :=
    writeTimelockedArtifact_ok _ _ _ _ _ _ _ _ writing
  -- The temporary file was new, so it holds the artifact and nothing else.
  have empty : w₈.sink = [] :=
    (Run.keeps_outcome (call_quiet host.toHost) again).sink.trans (newTempIn_empty _ _ _ _ opened)
  have whole : after.sink = artifact := by
    rw [(Run.keeps_outcome (call_quiet host.toHost) flushed).sink, written.sink, empty,
      List.nil_append]
  obtain ⟨_, _, planned⟩ := plannedSuperblock_ok _ body written.planned
  obtain ⟨_, _, _, _, _, mask, _⟩ :=
    PuzzleService.createPuzzleAndDeriveMask_ok _ _ trusted.prime _ _ _ _ _ created
  obtain ⟨modulus, base⟩ :=
    PuzzleService.createPuzzleAndDeriveMask_sized _ _ trusted.sized _ _ _ _ _ created
  obtain ⟨protected_, salted, keyed⟩ := keyProtectionMaterial_ok host _ _ _ _ _ _ _ wrapped
  -- Puzzle numbers have at most the modulus bits asked for, which fit their length fields.
  have short : ∀ value, value < 2 ^ request.modulusBits → beLength value ≤ 8192 := by
    intro value bound
    have wider := Nat.pow_lt_pow_succ (n := request.modulusBits) Nat.one_lt_two
    have length := beLength_le value (request.modulusBits + 1) (Nat.succ_pos _)
      (bound.trans wider)
    omega
  have small : bodyBytes.length ≤ maxSuperblockBodyLenBytes := by
    rw [((encodeSuperblockBody_ok _ _).mp written.encoded).2]
    apply lockBody_small body
    · rw [planned]
      exact nameFits
    · rw [planned]
      exact profileFits
    · rw [planned]
      exact short _ modulus
    · rw [planned]
      exact short _ base
    · rw [planned]
      exact salted
  have opens : artifactKey host.crates body (request.password.getD "") = .ok fileKey := by
    rw [mask] at keyed
    rw [planned]
    exact keyed
  rw [whole]
  refine ⟨_, _, body, bodyBytes, notice, stream, region, chunks, ⟨⟨_, _, written⟩,
    written_decodes host.toHost _ _ written named nameFits profileFits small, rfl, rfl,
    trusted.readsBack _ _, ?_, ?_, ?_, ?_, ?_, ?_, opens⟩⟩
  all_goals rw [planned]
  exacts [rfl, rfl, rfl, rfl, rfl, protected_]

theorem resolveInputSource_file (pathExists : Path → Bool) (input : String) (path : Path)
    (classified : resolveInputSource pathExists input = .file path) :
    path = ofText input ∧ input ≠ "-" ∧ pathExists (ofText input) = true := by
  unfold resolveInputSource at classified
  split at classified
  · cases classified
  · rename_i named
    split at classified
    · rename_i there
      cases classified
      exact ⟨rfl, named, there⟩
    · cases classified

theorem resolveInputSource_stdin (pathExists : Path → Bool) (input : String)
    (classified : resolveInputSource pathExists input = .stdin) : input = "-" := by
  unfold resolveInputSource at classified
  split at classified
  · rename_i dash
    exact dash
  · split at classified <;> cases classified

theorem resolveInputSource_text (pathExists : Path → Bool) (input text : String)
    (classified : resolveInputSource pathExists input = .text text) :
    text = input ∧ input ≠ "-" ∧ pathExists (ofText input) = false := by
  unfold resolveInputSource at classified
  split at classified
  · cases classified
  · rename_i named
    split at classified
    · cases classified
    · rename_i missing
      cases classified
      exact ⟨rfl, named, by simpa using missing⟩

/-- The name recorded for a file is its own, so it fits. -/
theorem sourceHolds_file (tree : Tree) (path : Path) (present : path ≠ []) (plaintext : Bytes)
    (name : Option String) (holds : sourceHolds host tree (.file path) = some (plaintext, name)) :
    tree.readFile host.cwd path = .ok plaintext ∧ ∃ last, fileName path = some last ∧
      proper last = true ∧ name = some (String.ofList last) := by
  unfold sourceHolds at holds
  dsimp only at holds
  cases read : tree.readFile host.cwd path with
  | error kind =>
      rw [read] at holds
      cases holds
  | ok contents =>
      obtain ⟨last, named, fits⟩ := Tree.readFile_named tree host.cwd path contents present read
      rw [read, named] at holds
      cases holds
      exact ⟨rfl, last, named, fits, rfl⟩

/-- A recorded name is the name of a file, so it fits and is not empty. -/
theorem sourceHolds_named (tree : Tree) (pathExists : Path → Bool) (input : String)
    (plaintext : Bytes) (name : Option String)
    (holds : sourceHolds host tree (resolveInputSource pathExists input) =
      some (plaintext, name)) :
    ∀ recorded ∈ name, proper recorded.toList = true := by
  cases classified : resolveInputSource pathExists input with
  | stdin =>
      rw [classified] at holds
      cases holds
      simp
  | text text =>
      rw [classified] at holds
      cases holds
      simp
  | file path =>
      rw [classified] at holds
      obtain ⟨rfl, _⟩ := resolveInputSource_file pathExists input path classified
      obtain ⟨_, last, _, fits, rfl⟩ :=
        sourceHolds_file host tree _ (ofText_ne_nil input) plaintext name holds
      rintro _ ⟨⟩
      rw [String.toList_ofList]
      exact fits

theorem proper_length (name : Name) (fits : proper name = true) :
    (asBytes (String.ofList name)).length ≤ 255 := by
  simp only [proper, Bool.and_eq_true, decide_eq_true_eq] at fits
  exact fits.2

theorem resolveLockDifficulty_fits (explicitIterations : Option UInt64)
    (target profileId : Option String) (rate : Option UInt64) (difficulty : ResolvedLockDifficulty)
    (resolved : resolveLockDifficulty explicitIterations target profileId rate = .ok difficulty) :
    (asBytes difficulty.hardwareProfileId).length ≤ 65535 := by
  have known : ∀ id ∈ currentMachineProfileId :: profiles.map HardwareProfile.id,
      (asBytes id).length ≤ 65535 := by
    decide
  exact known _ (List.mem_cons.mpr
    (resolveLockDifficulty_profile explicitIterations target profileId rate difficulty resolved))

/-- A recorded name can be written into a superblock. -/
theorem proper_recorded (name : Option String)
    (named : ∀ recorded ∈ name, proper recorded.toList = true) :
    name ≠ some "" ∧ (asBytes (name.getD "")).length ≤ 65535 := by
  constructor
  · intro nothing
    have fits := named "" nothing
    cases fits
  · cases recorded : name with
    | none => exact Nat.zero_le _
    | some name =>
        have short := proper_length _ (named name recorded)
        rw [String.ofList_toList] at short
        exact short.trans (by decide)

structure InPlace (request : LockRequest) (staged : StagedLockInput)
    (difficulty : ResolvedLockDifficulty) (before placed : World) (artifact : Bytes) : Prop where
  resolved : ∃ used resolving later, before.history <:+ resolving.history ∧
    resolving.history <:+ placed.history ∧
    resolveCurrentMachineIterationsPerSecond host request resolving = (.ok used, later) ∧
    resolveLockDifficulty request.iterations request.target request.hardwareProfile used =
      .ok difficulty
  output : resolveLockOutputPath
    (resolveInputSource (before.tree.pathExists host.cwd) request.input) request.output =
      .ok staged.outputPath
  free : before.tree.pathExists host.cwd staged.outputPath = false
  source : sourceHolds host before.tree
    (resolveInputSource (before.tree.pathExists host.cwd) request.input) =
      some (staged.plaintextStaging, staged.originalFilename)
  length : staged.plaintextBytes = UInt64.ofNat staged.plaintextStaging.length
  files : placed.tree.files = Function.update before.tree.files
    (Tree.lexical host.cwd staged.outputPath) (some artifact)
  readable : placed.tree.readFile host.cwd staged.outputPath = .ok artifact
  wrote : ∃ wanted plaintextReader body bodyBytes notice stream region chunks,
    LockWrote host staged request difficulty artifact wanted plaintextReader body bodyBytes
      notice stream region chunks

variable (trusted : Trusted host) (onProgress : Bool) (cancellation : Option CancellationToken)
  (request : LockRequest) (bits : request.modulusBits < 65536)
include trusted bits

/-- Preparing an artifact and moving it adds that artifact, made of what the source held. -/
theorem prepare_inPlace (staged : StagedLockInput) (difficulty : ResolvedLockDifficulty)
    (before ready placed : World)
    (prepared : prepare host onProgress cancellation request before =
      (.ok (staged, difficulty), ready))
    (moved : persistTimelockedContainer host staged.outputPath ready = (.ok (), placed)) :
    InPlace host request staged difficulty before placed ready.sink := by
  have grown := Run.keeps_outcome (prepare_grown host onProgress cancellation request) prepared
  obtain ⟨used, resolving, later, since, until_, rated, resolved⟩ := prepare_resolved host onProgress
    cancellation request staged difficulty before ready prepared
  have renamed := logged_suffix
    (Run.keeps_outcome (persistTimelockedContainer_steady steady_logged host (moves_logged _)
      staged.outputPath) moved)
  -- `prepare` once more step by step: what it staged is what it wrote.
  obtain ⟨_, w₁, polled, p₁⟩ := (Run.bind_eq_ok _ _ _ _ _).mp prepared
  obtain ⟨staged', w₂, staging, p₂⟩ := (Run.bind_eq_ok _ _ _ _ _).mp p₁
  obtain ⟨_, w₃, _, p₃⟩ := (Run.bind_eq_ok _ _ _ _ _).mp p₂
  obtain ⟨_, _, p₄⟩ := (Run.lift_bind_eq_ok _ _ _ _ _).mp p₃
  obtain ⟨_, w₄, writing, returned⟩ := (Run.bind_eq_ok _ _ _ _ _).mp p₄
  cases returned
  obtain ⟨_, rfl, outputs, free, holds, length⟩ := resolveAndStageInput_ok host cancellation _ _ _ _
    _ staging
  have quiet := Run.keeps_outcome (ensureNotCancelled_quiet cancellation) polled
  rw [quiet.tree] at outputs free holds
  unfold persistTimelockedContainer at moved
  rw [Run.read_bind] at moved
  obtain ⟨files, _⟩ := persist_eq_ok host.toHost _ _ _ _ moved
  obtain ⟨present, fits⟩ := proper_recorded _ (sourceHolds_named host _ _ _ _ _ holds)
  exact {
    resolved := ⟨used, resolving, later, since, until_.trans renamed, rated, resolved⟩
    output := outputs
    free := free
    source := holds
    length := length
    files := by rw [files, grown.1]
    readable := persist_readable host.toHost _ _ _ _ moved
    wrote := writePayloadArtifacts_wrote host trusted onProgress cancellation staged request
      difficulty bits present fits (resolveLockDifficulty_fits _ _ _ _ _ resolved) w₃ ready
      writing }

variable (response : LockResponse) (before after : World)
  (success : executeWithCancel host onProgress cancellation request before = (.ok response, after))
include success

/-- A lock that succeeds leaves its artifact where it put it. -/
theorem executeWithCancel_inPlace :
    ∃ staged difficulty artifact,
      response = ⟨staged.outputPath, difficulty.iterations, difficulty.hardwareProfileId,
        staged.plaintextBytes⟩ ∧
      InPlace host request staged difficulty before after artifact := by
  obtain ⟨⟨staged, difficulty⟩, ready, prepared, s₁⟩ := (Run.bind_eq_ok _ _ _ _ _).mp success
  obtain ⟨_, placed, moved, s₂⟩ := (Run.bind_eq_ok _ _ _ _ _).mp s₁
  obtain ⟨_, verified, checked, returned⟩ := (Run.bind_eq_ok _ _ _ _ _).mp s₂
  cases returned
  have inPlace := prepare_inPlace host trusted onProgress cancellation request bits staged difficulty
    before ready placed prepared moved
  -- What is added later hides nothing: files are only renamed in, directories only made.
  have later := Run.keeps_outcome
    (verifyOutputIfRequested_steady steady_grown host cancellation _ _) checked
  have logged := logged_suffix (Run.keeps_outcome
    (verifyOutputIfRequested_steady steady_logged host cancellation _ _) checked)
  obtain ⟨used, resolving, later', since, until_, rated, resolved⟩ := inPlace.resolved
  exact ⟨staged, difficulty, ready.sink, rfl, { inPlace with
    resolved := ⟨used, resolving, later', since, until_.trans logged, rated, resolved⟩
    files := later.1.trans inPlace.files
    readable := Tree.readFile_grown _ _ later _ _ _ inPlace.readable }⟩

/-- A lock that succeeds adds one artifact, which holds what its source held. -/
theorem executeWithCancel_ok :
    ∃ source plaintext name artifact,
      source = resolveInputSource (before.tree.pathExists host.cwd) request.input ∧
      resolveLockOutputPath source request.output = .ok response.outputPath ∧
      before.tree.pathExists host.cwd response.outputPath = false ∧
      sourceHolds host before.tree source = some (plaintext, name) ∧
      after.tree.files = Function.update before.tree.files
        (Tree.lexical host.cwd response.outputPath) (some artifact) ∧
      after.tree.readFile host.cwd response.outputPath = .ok artifact ∧
      (artifact.length < 2 ^ 64 → Holds host.crates request.password name plaintext artifact) := by
  obtain ⟨staged, difficulty, artifact, rfl, inPlace⟩ := executeWithCancel_inPlace host trusted
    onProgress cancellation request bits response before after success
  obtain ⟨_, _, _, _, _, _, _, _, wrote⟩ := inPlace.wrote
  exact ⟨_, staged.plaintextStaging, staged.originalFilename, artifact, rfl, inPlace.output,
    inPlace.free, inPlace.source, inPlace.files, inPlace.readable, wrote.holds host trusted⟩

/-- How the artifact at the output path of a lock that succeeds was written. -/
theorem executeWithCancel_wrote (artifact : Bytes)
    (left : after.tree.readFile host.cwd response.outputPath = .ok artifact) :
    ∃ staged difficulty used resolving later,
      response = ⟨staged.outputPath, difficulty.iterations, difficulty.hardwareProfileId,
        staged.plaintextBytes⟩ ∧
      before.history <:+ resolving.history ∧ resolving.history <:+ after.history ∧
      resolveCurrentMachineIterationsPerSecond host request resolving = (.ok used, later) ∧
      resolveLockDifficulty request.iterations request.target request.hardwareProfile used =
        .ok difficulty ∧
      sourceHolds host before.tree
        (resolveInputSource (before.tree.pathExists host.cwd) request.input) =
          some (staged.plaintextStaging, staged.originalFilename) ∧
      staged.plaintextBytes = UInt64.ofNat staged.plaintextStaging.length ∧
      ∃ wanted plaintextReader body bodyBytes notice stream region chunks,
        LockWrote host staged request difficulty artifact wanted plaintextReader body bodyBytes
          notice stream region chunks := by
  obtain ⟨staged, difficulty, written, rfl, inPlace⟩ := executeWithCancel_inPlace host trusted
    onProgress cancellation request bits response before after success
  have readable := inPlace.readable
  rw [left] at readable
  obtain rfl := Except.ok.inj readable
  obtain ⟨used, resolving, later, since, until_, rated, resolved⟩ := inPlace.resolved
  exact ⟨staged, difficulty, used, resolving, later, rfl, since, until_, rated, resolved,
    inPlace.source, inPlace.length, inPlace.wrote⟩

end Payload

/-! Runs over the smallest crates with an erasure code that leaves what is intact
alone. -/

def keepingCrates : Crates :=
  { plainCrates with
    rsEncode := fun _ _ shards => .ok shards
    rsReconstruct := fun _ _ shards => .ok shards }

def keepingHost (stdin : Bytes) : LockHost :=
  { calmLockHost stdin with toHost := calmHost keepingCrates }

theorem keepingHost_trusted (stdin : Bytes) : Trusted (keepingHost stdin) where
  aead := ⟨plainCrates_aead.opens⟩
  code := by
    refine ⟨⟨fun shards encoded kept length => ?_⟩, fun shards encoded kept length => rfl⟩
    obtain rfl := Except.ok.inj kept
    exact ⟨length, rfl, fun _ widths => widths⟩
  prime := PuzzleService.smoothDraws_prime
  sized := PuzzleService.smoothDraws_sized
  readsBack _ contents := fullReads_pieces _ _ contents (by decide) (Nat.le_refl _)

def leftBy (run : Except Error LockResponse × World) : Bytes :=
  (run.2.tree.files ["o.timelocked".toList]).getD []

end LockedArtifact
