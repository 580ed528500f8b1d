import Timelocked.RoundTrip
import Timelocked.TuiSession

/-!
The inspect and verify use cases, which read an artifact and never solve its
puzzle. What they report is what the lock recorded and what an unlock delivers.
-/
namespace Inspection
open ByteCodec RunRules Base PathText FileTree ChunkFrame PasswordProtection Superblock
  ArtifactReader ProtectedStream ArtifactWriter Recovery DamageRecovery LockDifficulty Lock
  LockEffects LockedArtifact Unlock UnlockEffects RoundTrip
open TuiSession (VerifyResponse)

def estimateDurationSecondsForRate (iterations iterationsPerSecond : UInt64) : Option UInt64 :=
  if iterationsPerSecond = 0 then none else some (iterations / iterationsPerSecond)

def estimateDurationOnProfileSeconds (iterations : UInt64) (profileId : String) : Option UInt64 :=
  (getProfile profileId).toOption.map fun profile =>
    iterations / max profile.iterationsPerSecond 1

def estimateDurationOnCurrentMachineSeconds (iterations : UInt64)
    (currentMachineIterationsPerSecond : Option UInt64) : Option UInt64 :=
  currentMachineIterationsPerSecond.bind (estimateDurationSecondsForRate iterations)

def estimateDurationOnProfileChoiceSeconds (iterations : UInt64) (profileId : String)
    (currentMachineIterationsPerSecond : Option UInt64) : Option UInt64 :=
  if profileId = currentMachineProfileId then
    estimateDurationOnCurrentMachineSeconds iterations currentMachineIterationsPerSecond
  else estimateDurationOnProfileSeconds iterations profileId

/-- A number of squarings made for a duration takes that duration. -/
theorem estimated_back (seconds rate iterations : UInt64)
    (estimated : estimateIterationsForRate seconds rate = .ok iterations) :
    rate ≠ 0 ∧ iterations / rate = seconds := by
  obtain ⟨_, _, s₁⟩ := (bind_eq_ok _ _ _).mp estimated
  obtain ⟨_, positive, s₂⟩ := (bind_eq_ok _ _ _).mp s₁
  obtain ⟨_, small, returned⟩ := (bind_eq_ok _ _ _).mp s₂
  cases returned
  rw [rejectIf_eq_ok] at positive small
  have some_ : rate.toNat ≠ 0 := by
    intro zero
    simp [zero] at positive
  refine ⟨fun zero => some_ (by rw [zero]; rfl), ?_⟩
  rw [← UInt64.toNat_inj, UInt64.toNat_div, UInt64.toNat_ofNat', Nat.mod_eq_of_lt (by omega)]
  exact Nat.mul_div_cancel _ (Nat.pos_of_ne_zero some_)

theorem profile_rate (profileId : String) (profile : HardwareProfile)
    (known : getProfile profileId = .ok profile) :
    max profile.iterationsPerSecond 1 = profile.iterationsPerSecond := by
  have moving : ∀ profile ∈ profiles,
      max profile.iterationsPerSecond 1 = profile.iterationsPerSecond := by
    decide
  exact moving profile (getProfile_known profileId profile known).1

theorem profile_not_currentMachine (profileId : String) (profile : HardwareProfile)
    (known : getProfile profileId = .ok profile) : profileId ≠ currentMachineProfileId := by
  obtain ⟨listed, rfl⟩ := getProfile_known profileId profile known
  have named : ∀ profile ∈ profiles, profile.id ≠ currentMachineProfileId := by decide
  exact named profile listed

/-- What a lock for a target records takes the target. -/
theorem resolveLockDifficulty_estimate (target : String) (profileId : Option String)
    (rate : Option UInt64) (difficulty : ResolvedLockDifficulty)
    (resolved : resolveLockDifficulty none (some target) profileId rate = .ok difficulty) :
    ∃ seconds, parseDurationSpec target = .ok seconds ∧
      difficulty.targetSeconds = some seconds ∧
      difficulty.hardwareProfileId = profileId.getD defaultHardwareProfileId ∧
      estimateDurationOnProfileChoiceSeconds difficulty.iterations difficulty.hardwareProfileId
        rate = some seconds := by
  obtain ⟨seconds, parsed, s₁⟩ := (bind_eq_ok _ _ _).mp resolved
  obtain ⟨speed, rated, s₂⟩ := (bind_eq_ok _ _ _).mp s₁
  obtain ⟨iterations, estimated, returned⟩ := (bind_eq_ok _ _ _).mp s₂
  cases returned
  obtain ⟨moving, back⟩ := estimated_back _ _ _ estimated
  refine ⟨seconds, parsed, rfl, rfl, ?_⟩
  unfold resolveIterationsPerSecond at rated
  split at rated
  · rename_i current
    have machine : profileId.getD defaultHardwareProfileId = currentMachineProfileId := by
      simpa [isCurrentMachineProfileId] using current
    unfold ensureCurrentMachineRate at rated
    split at rated
    · split at rated
      · cases rated
      · cases rated
        simp [estimateDurationOnProfileChoiceSeconds, machine,
          estimateDurationOnCurrentMachineSeconds, estimateDurationSecondsForRate, moving, back]
    · cases rated
  · obtain ⟨profile, known, returned⟩ := (bind_eq_ok _ _ _).mp rated
    cases returned
    simp [estimateDurationOnProfileChoiceSeconds,
      profile_not_currentMachine _ _ known, estimateDurationOnProfileSeconds, known,
      Except.toOption, profile_rate _ _ known, back]

/-- The difficulty of a lock for a target on the machine that was measured. -/
theorem resolveLockDifficulty_machine (target : String) (rate : UInt64)
    (difficulty : ResolvedLockDifficulty)
    (resolved : resolveLockDifficulty none (some target) (some currentMachineProfileId)
      (some rate) = .ok difficulty) :
    ∃ seconds, parseDurationSpec target = .ok seconds ∧
      difficulty.iterations.toNat = seconds.toNat * rate.toNat := by
  obtain ⟨seconds, parsed, s₁⟩ := (bind_eq_ok _ _ _).mp resolved
  obtain ⟨speed, rated, s₂⟩ := (bind_eq_ok _ _ _).mp s₁
  obtain ⟨iterations, estimated, returned⟩ := (bind_eq_ok _ _ _).mp s₂
  cases returned
  have machine : isCurrentMachineProfileId currentMachineProfileId = true := by decide
  obtain rfl : rate = speed := by
    rw [Option.getD_some, resolveIterationsPerSecond, if_pos machine] at rated
    unfold ensureCurrentMachineRate at rated
    split at rated
    · split at rated
      · cases rated
      · cases rated
        rename_i same _
        exact Option.some.inj same
    · cases rated
  obtain ⟨_, _, e₁⟩ := (bind_eq_ok _ _ _).mp estimated
  obtain ⟨_, _, e₂⟩ := (bind_eq_ok _ _ _).mp e₁
  obtain ⟨_, small, returned⟩ := (bind_eq_ok _ _ _).mp e₂
  cases returned
  rw [rejectIf_eq_ok] at small
  exact ⟨seconds, parsed, by rw [UInt64.toNat_ofNat', Nat.mod_eq_of_lt (by omega)]⟩

/-- The profile and the iterations of a lock are those asked for. -/
theorem resolveLockDifficulty_asked (explicitIterations : Option UInt64)
    (target profileId : Option String) (rate : Option UInt64) (difficulty : ResolvedLockDifficulty)
    (resolved : resolveLockDifficulty explicitIterations target profileId rate = .ok difficulty) :
    difficulty.hardwareProfileId = profileId.getD defaultHardwareProfileId ∧
      ∀ iterations, explicitIterations = some iterations →
        difficulty.iterations = iterations ∧ difficulty.targetSeconds = none := by
  cases explicitIterations with
  | none =>
      refine ⟨?_, by simp⟩
      cases target with
      | none => cases resolved
      | some target =>
          obtain ⟨_, _, _, profile, _⟩ := resolveLockDifficulty_estimate target _ _ _ resolved
          exact profile
  | some iterations =>
      obtain ⟨_, _, s₁⟩ := (bind_eq_ok _ _ _).mp resolved
      have made : difficulty =
          ⟨iterations, profileId.getD defaultHardwareProfileId, none⟩ := by
        split at s₁
        · exact (Except.ok.inj s₁).symm
        · obtain ⟨_, _, returned⟩ := (bind_eq_ok _ _ _).mp s₁
          exact (Except.ok.inj returned).symm
      subst made
      exact ⟨rfl, fun _ given => ⟨Option.some.inj given, rfl⟩⟩

/-! `inspect.rs` and `verify.rs`. -/

structure InspectRequest where
  input : Path
  currentMachineIterationsPerSecond : Option UInt64

structure InspectResponse where
  path : Path
  payloadLen : UInt64
  formatVersion : UInt8
  header : TimelockedHeader
  estimatedDurationOnProfileSeconds : Option UInt64
  estimatedDurationOnCurrentMachineSeconds : Option UInt64

def inspectionOf (request : InspectRequest) (parsed : StoredTimelockedArtifact) :
    InspectResponse where
  path := request.input
  payloadLen := parsed.superblock.payloadRegionLen
  formatVersion := parsed.superblock.bodyVersion
  header := parsed.header
  estimatedDurationOnProfileSeconds := estimateDurationOnProfileSeconds
    parsed.superblock.iterations parsed.superblock.hardwareProfile
  estimatedDurationOnCurrentMachineSeconds := estimateDurationOnCurrentMachineSeconds
    parsed.superblock.iterations request.currentMachineIterationsPerSecond

section UseCases
variable (host : Host)

def inspect (request : InspectRequest) : Op InspectResponse := do
  let parsed ← parseContainer host request.input
  pure (inspectionOf request parsed)

def verifyWithCancel (input : Path) (cancellation : Option CancellationToken) :
    Op VerifyResponse := do
  let parsed ← parseContainer host input
  let stats ← verifyTimelockedFileStructuralAndCancel host input parsed cancellation
  pure ⟨input, UInt64.ofNat stats.chunkCount, UInt64.ofNat stats.payloadPlaintextBytes⟩

def verify (input : Path) : Op VerifyResponse := verifyWithCancel host input none

section Ready
variable (healthy : host.Healthy) (bytes : Bytes) (parsed : StoredTimelockedArtifact)
  (read : readTimelockedArtifactBytes host.crates bytes = .ok parsed)
include healthy read

theorem parseContainer_ready (input : Path) (world : World)
    (there : world.tree.readFile host.cwd input = .ok bytes) :
    parseContainer host input world = (.ok parsed, world.called) := by
  unfold parseContainer
  rw [Run.bind_of_ok (readFile_ready host healthy input bytes world there), Run.lift_apply, read]

theorem inspect_ready (request : InspectRequest) (world : World)
    (there : world.tree.readFile host.cwd request.input = .ok bytes) :
    inspect host request world = (.ok (inspectionOf request parsed), world.called) := by
  unfold inspect
  rw [Run.bind_of_ok
    (parseContainer_ready host healthy bytes parsed read request.input world there)]
  rfl

/-- A file whose stream follows the grammar and has the length recorded is verified. -/
theorem verify_ready (input : Path) (world : World)
    (there : world.tree.readFile host.cwd input = .ok bytes) (region : Bytes)
    (frames : List StoredFrame) (located : payloadRegionOf parsed bytes = .ok region)
    (reconstructed : reconstructStream host parsed region = .ok (streamBytes 0 frames))
    (framed : Stream parsed.superblock.aeadChunkSizeBytes 0 frames)
    (whole : plaintextTotal frames = parsed.superblock.payloadPlaintextBytes.toNat) :
    ∃ after, verify host input world =
      (.ok ⟨input, UInt64.ofNat frames.length, parsed.superblock.payloadPlaintextBytes⟩,
        after) := by
  obtain ⟨after, verified⟩ :=
    (StructuralAgreement.verifyTimelockedFileStructural_ok host input parsed healthy bytes
      world.called there ⟨frames.length, plaintextTotal frames⟩).mpr
      ⟨region, _, frames, located, reconstructed, ⟨framed, rfl⟩, whole, rfl⟩
  refine ⟨after, ?_⟩
  unfold verify verifyWithCancel
  rw [Run.bind_of_ok (parseContainer_ready host healthy bytes parsed read input world there)]
  refine (Run.bind_of_ok verified _).trans ?_
  rw [whole, UInt64.ofNat_toNat]
  rfl

/-- An artifact that opens under some key is verified without it. -/
theorem opens_verifies (key : Block 32) (plaintext : Bytes)
    (opens : Opens host.crates parsed key plaintext bytes) (input : Path) (world : World)
    (there : world.tree.readFile host.cwd input = .ok bytes) :
    ∃ checked after, verify host input world = (.ok checked, after) ∧
      checked.payloadPlaintextBytes = parsed.superblock.payloadPlaintextBytes := by
  obtain ⟨region, frames, located, rebuilt, framed, whole⟩ := opens.framed
  obtain ⟨after, checks⟩ := verify_ready host healthy bytes parsed read input world there region
    frames located rebuilt framed whole
  exact ⟨_, after, checks, rfl⟩

end Ready

end UseCases

theorem readTimelockedArtifactBytes_header (crates : Crates) (bytes : Bytes)
    (parsed : StoredTimelockedArtifact)
    (read : readTimelockedArtifactBytes crates bytes = .ok parsed) :
    parsed.header = headerFromSuperblock crates parsed.superblock parsed.notice := by
  obtain ⟨_, _, s₁⟩ := (bind_eq_ok _ _ _).mp read
  obtain ⟨chosen, _, s₂⟩ := (bind_eq_ok _ _ _).mp s₁
  obtain ⟨start, _, s₃⟩ := (bind_eq_ok _ _ _).mp s₂
  obtain ⟨region, _, s₄⟩ := (bind_eq_ok _ _ _).mp s₃
  obtain ⟨stop, _, s₅⟩ := (bind_eq_ok _ _ _).mp s₄
  obtain ⟨regionEnd, _, s₆⟩ := (bind_eq_ok _ _ _).mp s₅
  obtain ⟨_, _, s₇⟩ := (bind_eq_ok _ _ _).mp s₆
  obtain ⟨_, _, returned⟩ := (bind_eq_ok _ _ _).mp s₇
  cases returned
  rfl

/-- The payload came out of these bytes, as the kind recorded in them. -/
structure Carried (host : Host) (bytes : Bytes) (parsed : StoredTimelockedArtifact)
    (response : UnlockResponse) : Prop where
  recovered : ∃ plaintext, Recovered host bytes parsed plaintext response.recoveredBytes ∧
    ∀ text, response.recoveredPayload = .text text → asBytes text = plaintext
  kind : (∃ text, response.recoveredPayload = .text text) ↔
    parsed.superblock.originalFilename = none

theorem payloadKind_text (parsed : StoredTimelockedArtifact) :
    parsed.payloadKind = .text ↔ parsed.superblock.originalFilename = none := by
  unfold StoredTimelockedArtifact.payloadKind
  cases parsed.superblock.originalFilename <;> simp

section Unlock
variable (host : Host) (onProgress : Bool) (cancellation : Option CancellationToken)
  (provider : Option PasswordProvider) (request : UnlockRequest)
  (parsed : StoredTimelockedArtifact) (recoveredFilePath : Option Path) (bytes : Bytes)
  (read : readTimelockedArtifactBytes host.crates bytes = .ok parsed)
include read

theorem recoverPayloadOnce_carried (recoverFileKey : RecoverFileKeyFn)
    (keyQuiet : ∀ request, Run.Keeps Quiet (recoverFileKey request)) (response : UnlockResponse)
    (before after : World) (there : before.tree.readFile host.cwd request.input = .ok bytes)
    (success : recoverPayloadOnce host onProgress cancellation request parsed parsed.payloadKind
      recoveredFilePath recoverFileKey before = (.ok response, after)) :
    Carried host bytes parsed response := by
  unfold recoverPayloadOnce at success
  cases kind : parsed.payloadKind with
  | text =>
      rw [kind] at success
      obtain ⟨⟨stats, textBytes⟩, captured, recovering, shown⟩ :=
        (Run.bind_eq_ok _ _ _ _ _).mp success
      obtain ⟨inner, recovered, rfl, rfl⟩ := (capture_eq_ok _ _ _ _ _).mp recovering
      obtain ⟨plaintext, whole, wrote⟩ := recoverPayloadToWriterWithCancel_ok host request.input
        parsed .memory recoverFileKey keyQuiet onProgress cancellation bytes stats
        { before with sink := [] } inner there read recovered
      have held : inner.sink = plaintext := by simpa using wrote.sink
      dsimp only at shown
      cases valid : fromUtf8 inner.sink with
      | none =>
          rw [valid] at shown
          cases shown
      | some text =>
          rw [valid] at shown
          cases shown
          refine ⟨⟨plaintext, whole, ?_⟩, ?_⟩
          · rintro _ ⟨⟩
            rw [(fromUtf8_eq_some _ _).mp valid, held]
          · exact iff_of_true ⟨text, rfl⟩ ((payloadKind_text parsed).mp kind)
  | file originalFilename =>
      rw [kind] at success
      cases recoveredFilePath with
      | none => cases success
      | some outputPath =>
          obtain ⟨_, w₁, made, s₁⟩ := (Run.bind_eq_ok _ _ _ _ _).mp success
          obtain ⟨_, w₂, opened, s₂⟩ := (Run.bind_eq_ok _ _ _ _ _).mp s₁
          have grown := steady_grown.trans _ _ _
            (Run.keeps_outcome (createDirAll_steady steady_grown makes_grown host _) made)
            (Run.keeps_outcome (newTempIn_steady steady_grown host _) opened)
          obtain ⟨stats, w₃, recovered, s₃⟩ := (Run.bind_eq_ok _ _ _ _ _).mp s₂
          obtain ⟨plaintext, whole, _⟩ := recoverPayloadToWriterWithCancel_ok host request.input
            parsed .tempFile recoverFileKey keyQuiet onProgress cancellation bytes stats w₂ w₃
            (Tree.readFile_grown _ _ grown _ _ _ there) read recovered
          obtain ⟨_, _, _, s₄⟩ := (Run.bind_eq_ok _ _ _ _ _).mp s₃
          obtain ⟨_, _, _, s₅⟩ := (Run.bind_eq_ok _ _ _ _ _).mp s₄
          obtain ⟨_, _, _, s₆⟩ := (Run.bind_eq_ok _ _ _ _ _).mp s₅
          obtain ⟨_, _, _, returned⟩ := (Run.bind_eq_ok _ _ _ _ _).mp s₆
          cases returned
          refine ⟨⟨plaintext, whole, by rintro _ ⟨⟩⟩, iff_of_false (by simp) ?_⟩
          rw [← payloadKind_text, kind]
          simp

/-- A failed attempt leaves the file for the next one as it was. -/
theorem attempts_carried (metadata : PasswordProtectionMetadata) (left attempt : Nat)
    (previousAttemptFailed : Bool) (response : UnlockResponse) (before after : World)
    (there : before.tree.readFile host.cwd request.input = .ok bytes)
    (success : attempts host onProgress cancellation provider request parsed parsed.payloadKind
      recoveredFilePath metadata left attempt previousAttemptFailed before =
        (.ok response, after)) :
    Carried host bytes parsed response := by
  induction left generalizing attempt previousAttemptFailed before with
  | zero => cases success
  | succ left ih =>
      rw [attempts] at success
      dsimp only at success
      have keyQuiet := recoverPasswordProtectedFileKey_keeps quiet_attends host onProgress
        cancellation provider metadata
        ⟨request.input, attempt, maxPasswordAttempts, previousAttemptFailed⟩
      rcases attempted : attemptOnce host onProgress cancellation provider request parsed
        parsed.payloadKind recoveredFilePath metadata attempt previousAttemptFailed before
        with ⟨reason | first, stop⟩
      · rw [attempted] at success
        have grown : Grown before stop := recoverPayloadOnce_fails host onProgress cancellation
          request parsed recoveredFilePath _ steady_grown makes_grown hears_grown
          (Run.keeps_weaken (keyQuiet _) quiet_grown) parsed.payloadKind before reason stop
          attempted
        dsimp only at success
        split at success
        · split at success
          · exact ih _ _ stop (Tree.readFile_grown _ _ grown _ _ _ there) success
          · cases success
        · cases success
      · rw [attempted] at success
        cases success
        exact recoverPayloadOnce_carried host onProgress cancellation request parsed
          recoveredFilePath bytes read _ keyQuiet response before stop there attempted

end Unlock

section Reports
variable (host : Host) (onProgress : Bool) (cancellation : Option CancellationToken)
  (provider : Option PasswordProvider) (request : UnlockRequest)

theorem execute_carried (response : UnlockResponse) (before after : World)
    (success : executeWithCancelAndPasswordProvider host onProgress cancellation provider request
      before = (.ok response, after)) :
    ∃ bytes parsed, before.tree.readFile host.cwd request.input = .ok bytes ∧
      readTimelockedArtifactBytes host.crates bytes = .ok parsed ∧
      Carried host bytes parsed response := by
  obtain ⟨_, w₁, polled, s₁⟩ := (Run.bind_eq_ok _ _ _ _ _).mp success
  obtain ⟨parsed, w₂, parsing, s₂⟩ := (Run.bind_eq_ok _ _ _ _ _).mp s₁
  obtain ⟨bytes, opened, reading, decoded⟩ := (Run.bind_eq_ok _ _ _ _ _).mp parsing
  obtain ⟨read, rfl⟩ := Prod.mk.inj decoded
  obtain ⟨there, quiet⟩ := readFile_eq_ok host request.input bytes w₁ opened reading
  have still := Run.keeps_outcome (ensureNotCancelled_quiet cancellation) polled
  rw [Run.read_bind] at s₂
  obtain ⟨recoveredFilePath, _, s₃⟩ := (Run.lift_bind_eq_ok _ _ _ _ _).mp s₂
  refine ⟨bytes, parsed, still.tree ▸ there, read, ?_⟩
  have present : opened.tree.readFile host.cwd request.input = .ok bytes := by
    rw [quiet.tree]
    exact there
  cases protection : parsed.superblock.passwordProtection with
  | none =>
      rw [protection] at s₃
      exact recoverPayloadOnce_carried host onProgress cancellation request parsed
        recoveredFilePath bytes read _
        (recoverFileKeyFromTimelock_keeps quiet_attends host onProgress cancellation)
        response opened after present s₃
  | some metadata =>
      rw [protection] at s₃
      dsimp only at s₃
      rw [Run.bind_of_ok (Run.modify_apply zeroizeMask opened)] at s₃
      exact attempts_carried host onProgress cancellation provider request parsed
        recoveredFilePath bytes read metadata _ _ _ response (zeroizeMask opened) after present s₃

/-- Whatever file was unlocked: inspected and verified instead, it shows the size and the
kind of payload that the unlock delivered. -/
theorem unlocked_as_reported (response : UnlockResponse) (before after : World)
    (success : executeWithCancelAndPasswordProvider host onProgress cancellation provider request
      before = (.ok response, after))
    (reader : Host) (sameCrates : reader.crates = host.crates) (sameDir : reader.cwd = host.cwd)
    (healthy : reader.Healthy) (world : World) (same : world.tree = before.tree)
    (rate : Option UInt64) :
    ∃ shown inspected checked verified,
      inspect reader ⟨request.input, rate⟩ world = (.ok shown, inspected) ∧
      verify reader request.input world = (.ok checked, verified) ∧
      shown.header.payloadPlaintextBytes.toNat = response.recoveredBytes ∧
      checked.payloadPlaintextBytes.toNat = response.recoveredBytes ∧
      ((∃ text, response.recoveredPayload = .text text) ↔
        shown.header.originalFilename = none) ∧
      ∀ text, response.recoveredPayload = .text text →
        (asBytes text).length = response.recoveredBytes := by
  obtain ⟨bytes, parsed, there, read, carried⟩ := execute_carried host onProgress cancellation
    provider request response before after success
  obtain ⟨⟨plaintext, ⟨_, stored, length, recorded⟩, spelled⟩, kind⟩ := carried
  obtain ⟨region, _, _, frames, messages, located, reconstructed, _, framed, opened, rfl⟩ := stored
  rw [← same, ← sameDir] at there
  have readAs : readTimelockedArtifactBytes reader.crates bytes = .ok parsed := by
    rw [sameCrates]
    exact read
  have rebuilt : reconstructStream reader parsed region = .ok (streamBytes 0 frames) := by
    rw [reconstructStream, sameCrates]
    exact reconstructed
  have whole : plaintextTotal frames = parsed.superblock.payloadPlaintextBytes.toNat := by
    rw [← recorded, ← length]
    exact (opened_lengths host _ _ opened).symm
  obtain ⟨verified, checks⟩ := verify_ready reader healthy bytes parsed readAs request.input
    world there region frames located rebuilt framed whole
  have header := readTimelockedArtifactBytes_header reader.crates bytes parsed readAs
  refine ⟨_, _, _, verified,
    inspect_ready reader healthy bytes parsed readAs ⟨request.input, rate⟩ world there, checks,
    ?_, recorded.symm, ?_, ?_⟩
  · rw [inspectionOf, header]
    exact recorded.symm
  · rw [inspectionOf, header]
    exact kind
  · intro text shown
    rw [spelled text shown, length]

end Reports

section Locked
variable (host : LockHost) (onProgress : Bool) (cancellation : Option CancellationToken)

/-- What the superblock of a locked artifact says of the lock. -/
structure Recorded (host : LockHost) (staged : StagedLockInput) (request : LockRequest)
    (difficulty : ResolvedLockDifficulty) (artifact : Bytes) (parsed : StoredTimelockedArtifact) :
    Prop where
  read : readTimelockedArtifactBytes host.crates artifact = .ok parsed
  iterations : parsed.superblock.iterations = difficulty.iterations
  hardwareProfile : parsed.superblock.hardwareProfile = difficulty.hardwareProfileId
  targetSeconds : parsed.superblock.targetSeconds = difficulty.targetSeconds
  payloadBytes : parsed.superblock.payloadPlaintextBytes = staged.plaintextBytes
  originalFilename : parsed.superblock.originalFilename = staged.originalFilename
  protected_ : parsed.superblock.passwordProtection.isSome = request.password.isSome

/-- The rate of a lock for the current machine: the one it was given, or the one
it measures. -/
def machineRate (host : LockHost) (request : LockRequest) (history : History) : UInt64 :=
  request.currentMachineIterationsPerSecond.getD (host.benchmark history)

theorem resolveCurrentMachine_rate (request : LockRequest) (implicit : request.iterations = none)
    (machine : request.hardwareProfile = some currentMachineProfileId) (rate : Option UInt64)
    (before after : World)
    (resolved : resolveCurrentMachineIterationsPerSecond host request before =
      (.ok rate, after)) : rate = some (machineRate host request before.history) := by
  have current : isCurrentMachineProfileId currentMachineProfileId = true := by decide
  simp only [resolveCurrentMachineIterationsPerSecond, implicit, machine, current,
    Option.isSome_none, Bool.false_eq_true, if_false, Bool.true_eq_false] at resolved
  cases brought : request.currentMachineIterationsPerSecond with
  | some given =>
      rw [brought] at resolved
      cases resolved
      rw [machineRate, brought, Option.getD_some]
  | none =>
      rw [brought] at resolved
      dsimp only at resolved
      rw [Run.read_bind] at resolved
      obtain ⟨_, _, returned⟩ := (Run.lift_bind_eq_ok _ _ _ _ _).mp resolved
      cases returned
      rw [machineRate, brought, Option.getD_none]

theorem currentMachine_unknown :
    (getProfile currentMachineProfileId).toOption = none := by decide

theorem currentMachine_chosen (profileId : Option String)
    (machine : profileId.getD defaultHardwareProfileId = currentMachineProfileId) :
    profileId = some currentMachineProfileId := by
  cases profileId with
  | none =>
      have different : defaultHardwareProfileId ≠ currentMachineProfileId := by decide
      exact absurd machine different
  | some chosen => exact congrArg some machine

/-- What is reported of a target that a lock was made for, at this rate. -/
structure TargetShown (shown : InspectResponse) (seconds used : UInt64) (rate : Option UInt64) :
    Prop where
  recorded : shown.header.timelockParams.targetSeconds = some seconds
  onProfile : shown.header.timelockParams.hardwareProfile ≠ currentMachineProfileId →
    shown.estimatedDurationOnProfileSeconds = some seconds
  onMachine : shown.header.timelockParams.hardwareProfile = currentMachineProfileId →
    shown.header.timelockParams.iterations.toNat = seconds.toNat * used.toNat ∧
      shown.estimatedDurationOnProfileSeconds = none ∧
      (rate = some used → shown.estimatedDurationOnCurrentMachineSeconds = some seconds)

section Success
variable (trusted : Trusted host) (request : LockRequest) (bits : request.modulusBits < 65536)
  (response : LockResponse) (before after : World)
  (success : executeWithCancel host onProgress cancellation request before = (.ok response, after))
  (artifact : Bytes) (left : after.tree.readFile host.cwd response.outputPath = .ok artifact)
  (addressable : artifact.length < 2 ^ 64)
include trusted bits success left addressable

theorem executeWithCancel_recorded :
    ∃ staged difficulty used parsed resolving later,
      response = ⟨staged.outputPath, difficulty.iterations, difficulty.hardwareProfileId,
        staged.plaintextBytes⟩ ∧
      before.history <:+ resolving.history ∧ resolving.history <:+ after.history ∧
      resolveCurrentMachineIterationsPerSecond host request resolving = (.ok used, later) ∧
      resolveLockDifficulty request.iterations request.target request.hardwareProfile used =
        .ok difficulty ∧
      sourceHolds host before.tree
        (resolveInputSource (before.tree.pathExists host.cwd) request.input) =
          some (staged.plaintextStaging, staged.originalFilename) ∧
      staged.plaintextBytes = UInt64.ofNat staged.plaintextStaging.length ∧
      Recorded host staged request difficulty artifact parsed := by
  obtain ⟨staged, difficulty, used, resolving, later, same, since, until_, rated, resolved, holds,
    length, wanted, reader, body, bodyBytes, notice, stream, region, chunks, wrote⟩ :=
    executeWithCancel_wrote host trusted onProgress cancellation request bits response before after
      success artifact left
  obtain ⟨_, _, written⟩ := wrote.written
  obtain ⟨parsed, read, parsedAs, _⟩ :=
    written_parses host.toHost _ _ written body wrote.decoded addressable
  have superblock := parsedAs.superblock
  refine ⟨staged, difficulty, used, parsed, resolving, later, same, since, until_, rated, resolved,
    holds, length, read, ?_, ?_, ?_, ?_, ?_, ?_⟩
  all_goals rw [superblock]
  exacts [wrote.iterations, wrote.hardwareProfile, wrote.targetSeconds, wrote.payloadBytes,
    wrote.originalFilename, wrote.protected_]

section Reader
variable (reader : Host) (sameCrates : reader.crates = host.crates)
  (sameDir : reader.cwd = host.cwd) (healthy : reader.Healthy) (world : World)
  (same : world.tree = after.tree)
include sameCrates sameDir healthy same

/-- A lock that succeeds can be inspected, and what inspection shows is what was asked for. -/
theorem locked_as_reported (rate : Option UInt64) :
    ∃ shown inspected history,
      inspect reader ⟨response.outputPath, rate⟩ world = (.ok shown, inspected) ∧
      before.history <:+ history ∧ history <:+ after.history ∧
      shown.header.timelockParams.iterations = response.iterations ∧
      (∀ iterations, request.iterations = some iterations →
        response.iterations = iterations ∧ shown.header.timelockParams.targetSeconds = none) ∧
      shown.header.timelockParams.hardwareProfile = response.hardwareProfile ∧
      response.hardwareProfile = request.hardwareProfile.getD defaultHardwareProfileId ∧
      shown.header.payloadPlaintextBytes = response.payloadBytes ∧
      shown.header.passwordProtection.passwordProtected = request.password.isSome ∧
      (∃ plaintext, sourceHolds host before.tree
          (resolveInputSource (before.tree.pathExists host.cwd) request.input) =
            some (plaintext, shown.header.originalFilename) ∧
        response.payloadBytes = UInt64.ofNat plaintext.length) ∧
      ∀ target, request.iterations = none → request.target = some target →
        ∃ seconds, parseDurationSpec target = .ok seconds ∧
          TargetShown shown seconds (machineRate host request history) rate := by
  obtain ⟨staged, difficulty, used, parsed, resolving, later, rfl, since, until_, rated, resolved,
    holds, length, recorded⟩ := executeWithCancel_recorded host onProgress cancellation trusted
      request bits response before after success artifact left addressable
  have read : readTimelockedArtifactBytes reader.crates artifact = .ok parsed := by
    rw [sameCrates]
    exact recorded.read
  have there : world.tree.readFile reader.cwd staged.outputPath = .ok artifact := by
    rw [same, sameDir]
    exact left
  have header := readTimelockedArtifactBytes_header reader.crates _ parsed read
  obtain ⟨asked, given⟩ := resolveLockDifficulty_asked _ _ _ _ _ resolved
  refine ⟨_, _, resolving.history,
    inspect_ready reader healthy _ parsed read ⟨staged.outputPath, rate⟩ world there, since, until_,
    ?_, ?_, ?_, asked, ?_, ?_, ⟨staged.plaintextStaging, ?_, length⟩, ?_⟩
  · rw [inspectionOf, header]
    exact recorded.iterations
  · intro iterations explicit
    rw [inspectionOf, header]
    obtain ⟨same, untimed⟩ := given iterations explicit
    exact ⟨same, recorded.targetSeconds.trans untimed⟩
  · rw [inspectionOf, header]
    exact recorded.hardwareProfile
  · rw [inspectionOf, header]
    exact recorded.payloadBytes
  · rw [inspectionOf, header, ← recorded.protected_]
    simp only [headerFromSuperblock, passwordProtectionSummary]
    cases parsed.superblock.passwordProtection <;> rfl
  · rw [inspectionOf, header]
    simp only [headerFromSuperblock, recorded.originalFilename]
    exact holds
  · intro target implicit targeted
    rw [implicit, targeted] at resolved
    obtain ⟨seconds, spelled, noted, profile, estimate⟩ :=
      resolveLockDifficulty_estimate target _ _ _ resolved
    refine ⟨seconds, spelled, ?_, ?_, ?_⟩
    · rw [inspectionOf, header]
      exact recorded.targetSeconds.trans noted
    · intro otherProfile
      rw [inspectionOf, header] at otherProfile
      have other : difficulty.hardwareProfileId ≠ currentMachineProfileId := by
        rw [← recorded.hardwareProfile]
        exact otherProfile
      rw [estimateDurationOnProfileChoiceSeconds, if_neg other] at estimate
      simp only [inspectionOf, recorded.iterations, recorded.hardwareProfile]
      exact estimate
    · intro onMachine
      rw [inspectionOf, header] at onMachine
      have machine : difficulty.hardwareProfileId = currentMachineProfileId := by
        rw [← recorded.hardwareProfile]
        exact onMachine
      have chosen := currentMachine_chosen request.hardwareProfile (profile ▸ machine)
      obtain rfl := resolveCurrentMachine_rate host request implicit chosen used resolving later rated
      refine ⟨?_, ?_, ?_⟩
      · rw [chosen] at resolved
        obtain ⟨seconds', spelled', product⟩ := resolveLockDifficulty_machine target _ _ resolved
        rw [spelled] at spelled'
        obtain rfl := Except.ok.inj spelled'
        rw [inspectionOf, header]
        exact (congrArg UInt64.toNat recorded.iterations).trans product
      · simp only [inspectionOf, recorded.hardwareProfile, machine,
          estimateDurationOnProfileSeconds, currentMachine_unknown, Option.map_none]
      · rintro rfl
        rw [estimateDurationOnProfileChoiceSeconds, if_pos machine] at estimate
        simp only [inspectionOf, recorded.iterations]
        exact estimate

/-- A lock that succeeds passes verification, with the size it reported. -/
theorem locked_verifies :
    ∃ checked verified, verify reader response.outputPath world = (.ok checked, verified) ∧
      checked.payloadPlaintextBytes = response.payloadBytes := by
  obtain ⟨staged, difficulty, used, parsed, resolving, later, rfl, since, until_, rated, resolved,
    holds, length, recorded⟩ := executeWithCancel_recorded host onProgress cancellation trusted
      request bits response before after success artifact left addressable
  obtain ⟨_, _, _, found, _, _, _, _, _, readable, opens⟩ :=
    executeWithCancel_ok host trusted onProgress cancellation request bits _ before after success
  rw [left] at readable
  obtain rfl := Except.ok.inj readable
  obtain ⟨⟨parsed', key, ⟨read, opened⟩, _⟩⟩ := opens addressable
  rw [recorded.read] at read
  obtain rfl := Except.ok.inj read
  have readAs : readTimelockedArtifactBytes reader.crates artifact = .ok parsed := by
    rw [sameCrates]
    exact recorded.read
  have there : world.tree.readFile reader.cwd staged.outputPath = .ok artifact := by
    rw [same, sameDir]
    exact left
  rw [← sameCrates] at opened
  obtain ⟨checked, verified, checks, size⟩ := opens_verifies reader healthy artifact parsed readAs
    key _ ⟨readAs, opened⟩ staged.outputPath world there
  exact ⟨checked, verified, checks, size.trans recorded.payloadBytes⟩

end Reader

end Success

end Locked

def targetRequest : LockRequest :=
  { stdinRequest with
    iterations := none, target := some "3s", hardwareProfile := some currentMachineProfileId }

def lockTarget : Except Error LockResponse × World :=
  Lock.executeWithCancel (keepingHost [120]) false none targetRequest (freshWorld .bare)

def lockedTarget : LockResponse := ⟨["o.timelocked".toList], 3, currentMachineProfileId, 1⟩

theorem lockTarget_runs :
    lockTarget.1 = .ok lockedTarget ∧
      lockTarget.2.tree.readFile [] ["o.timelocked".toList] = .ok (leftBy lockTarget) ∧
      (leftBy lockTarget).length < 2 ^ 64 := by
  decide +kernel

theorem lockTarget_ok : lockTarget = (.ok lockedTarget, lockTarget.2) := by
  rw [← lockTarget_runs.1]

theorem later_tree (run : Except Error LockResponse × World) : (later run).tree = run.2.tree := rfl

theorem locked_as_reported_target :
    ∃ shown inspected,
      inspect (calmHost keepingCrates) ⟨["o.timelocked".toList], some 1⟩ (later lockTarget) =
        (.ok shown, inspected) ∧
      shown.header.timelockParams.targetSeconds = some 3 ∧
      shown.estimatedDurationOnCurrentMachineSeconds = some 3 := by
  obtain ⟨_, left, short⟩ := lockTarget_runs
  obtain ⟨shown, inspected, history, ran, _, _, _, _, profile, _, _, _, _, targeted⟩ :=
    locked_as_reported (keepingHost [120]) false none (keepingHost_trusted [120]) targetRequest
      (by decide) lockedTarget (freshWorld .bare) lockTarget.2 lockTarget_ok (leftBy lockTarget)
      left short (calmHost keepingCrates) rfl rfl (fun _ => rfl) (later lockTarget)
      (later_tree _) (some 1)
  obtain ⟨seconds, spelled, shows⟩ := targeted "3s" rfl rfl
  have three : parseDurationSpec "3s" = .ok 3 := by decide +kernel
  rw [three] at spelled
  cases spelled
  exact ⟨shown, inspected, ran, shows.recorded, (shows.onMachine profile).2.2 rfl⟩

theorem locked_verifies_target :
    ∃ checked verified,
      verify (calmHost keepingCrates) ["o.timelocked".toList] (later lockTarget) =
        (.ok checked, verified) ∧
      checked.payloadPlaintextBytes = 1 := by
  obtain ⟨_, left, short⟩ := lockTarget_runs
  exact locked_verifies (keepingHost [120]) false none (keepingHost_trusted [120]) targetRequest
    (by decide) lockedTarget (freshWorld .bare) lockTarget.2 lockTarget_ok (leftBy lockTarget)
    left short (calmHost keepingCrates) rfl rfl (fun _ => rfl) (later lockTarget)
    (later_tree _)

end Inspection
