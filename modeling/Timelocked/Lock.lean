import Timelocked.ArtifactWriter
import Timelocked.LockDifficulty
import Timelocked.PuzzleService
import Timelocked.Recovery

/-!
The lock use case: the input is classified and copied to a staging file, the
difficulty is resolved, the artifact is written to a temporary file and moved
into place, and on request the file at the output path is verified.
-/
namespace Lock
open ByteCodec RunRules Base PathText FileTree PasswordProtection Superblock ArtifactReader
  ProtectedStream ArtifactWriter Recovery LockDifficulty

structure LockRequest where
  input : String
  output : Option Path
  modulusBits : Nat
  target : Option String
  iterations : Option UInt64
  hardwareProfile : Option String
  currentMachineIterationsPerSecond : Option UInt64
  password : Option String
  verify : Bool

structure LockResponse where
  outputPath : Path
  iterations : UInt64
  hardwareProfile : String
  payloadBytes : UInt64
  deriving DecidableEq, Repr

/-- What a lock run asks of its surroundings beyond the disk. -/
structure LockHost extends Host where
  draws : PuzzleService.PuzzleDraws
  stdin : Bytes
  /-- The reads of a staging file with these contents. -/
  readBack : History → Bytes → PlaintextReader defaultLockChunkSizeBytes.toNat
  unixSeconds : History → UInt64
  benchmark : History → UInt64

def fullReads (size : Nat) : Nat → Bytes → PlaintextReader size
  | 0, _ => []
  | fuel + 1, bytes =>
      if some_ : bytes ≠ [] ∧ 0 < size then
        .ok ⟨bytes.take size, by
          obtain ⟨present, positive⟩ := some_
          refine ⟨?_, by simp⟩
          rw [ne_eq, List.take_eq_nil_iff]
          exact not_or.mpr ⟨Nat.ne_of_gt positive, present⟩⟩ :: fullReads size fuel (bytes.drop size)
      else []

theorem fullReads_pieces (size fuel : Nat) (bytes : Bytes) (positive : 0 < size)
    (enough : bytes.length ≤ fuel) : (pieces (fullReads size fuel bytes)).flatten = bytes := by
  induction fuel generalizing bytes with
  | zero =>
      rw [List.length_eq_zero_iff.mp (Nat.le_zero.mp enough)]
      rfl
  | succ fuel ih =>
      unfold fullReads
      by_cases present : bytes = []
      · rw [present, dif_neg (by simp)]
        rfl
      · have shorter : (bytes.drop size).length ≤ fuel := by
          have some_ := List.length_pos_iff.mpr present
          rw [List.length_drop]
          omega
        rw [dif_pos ⟨present, positive⟩]
        have rest := ih (bytes.drop size) shorter
        simp only [pieces, List.filterMap_cons] at rest ⊢
        simp [rest]

def calmLockHost (stdin : Bytes) : LockHost where
  toHost := calmHost plainCrates
  draws := PuzzleService.smoothDraws
  stdin := stdin
  readBack _ contents := fullReads _ contents.length contents
  unixSeconds _ := 0
  benchmark _ := 1

def timelockedExtension : Name := ".timelocked".toList

def appendSuffixToPath (path : Path) (suffix : Name) : Path :=
  match fileName path with
  | some name => withFileName path (name ++ suffix)
  | none => path.dropLast ++ [path.getLast?.getD [] ++ suffix]

def defaultTimelockedOutputPath (inputPath : Path) : Path :=
  appendSuffixToPath inputPath timelockedExtension

/-- `str::eq_ignore_ascii_case`. -/
def eqIgnoreAsciiCase (left right : Name) : Bool := left.map Char.toLower = right.map Char.toLower

def ensureTimelockedExtension (path : Path) : Path :=
  if (extension path).any (eqIgnoreAsciiCase · "timelocked".toList) then path
  else defaultTimelockedOutputPath path

inductive InputSource where
  | stdin
  | file (path : Path)
  | text (text : String)
  deriving DecidableEq, Repr

def InputSource.defaultOutputPath : InputSource → Option Path
  | .stdin => none
  | .file path => some (defaultTimelockedOutputPath path)
  | .text _ => none

def resolveInputSource (pathExists : Path → Bool) (input : String) : InputSource :=
  if input = "-" then .stdin
  else if pathExists (ofText input) = true then .file (ofText input)
  else .text input

def resolveLockOutputPath (inputSource : InputSource) (explicit : Option Path) : Except Error Path :=
  match explicit with
  | some path => .ok (ensureTimelockedExtension path)
  | none =>
      match inputSource.defaultOutputPath with
      | some path => .ok path
      | none => .error (.invalidArgument
          "an explicit output path is required when locking stdin or text input")

structure StagedLockInput where
  outputPath : Path
  outputParent : Path
  /-- What the staging file holds. -/
  plaintextStaging : Bytes
  plaintextBytes : UInt64
  originalFilename : Option String

section Stage
variable (host : LockHost) (cancellation : Option CancellationToken)

def ensureParentDirExists (path : Path) : Op Unit :=
  match parent path with
  | some up => createDirAll host.toHost up
  | none => pure ()

/-- Copies to the open staging file; the last call flushes and rewinds it. -/
def copyInputToStaging (input : InputSource) : Op (UInt64 × Option String) :=
  match input with
  | .stdin => do
      call host.toHost
      writeAll host.toHost .tempFile host.stdin
      call host.toHost
      pure (UInt64.ofNat host.stdin.length, none)
  | .file inputPath => do
      let copied ← readFile host.toHost inputPath
      writeAll host.toHost .tempFile copied
      call host.toHost
      pure (UInt64.ofNat copied.length, (fileName inputPath).map String.ofList)
  | .text text => do
      writeAll host.toHost .tempFile (asBytes text)
      call host.toHost
      pure (UInt64.ofNat (asBytes text).length, none)

def resolveAndStageInput (input : String) (explicitOutput : Option Path) : Op StagedLockInput := do
  let tree ← Run.read World.tree
  let inputSource := resolveInputSource (tree.pathExists host.cwd) input
  let outputPath ← Run.lift (resolveLockOutputPath inputSource explicitOutput)
  Run.lift (rejectIf (tree.pathExists host.cwd outputPath = true) (.outputExists outputPath))
  ensureParentDirExists host outputPath
  ensureNotCancelled cancellation
  let outputParent := (parent outputPath).getD [['.']]
  newTempIn host.toHost outputParent
  let (plaintextBytes, originalFilename) ← copyInputToStaging host inputSource
  let plaintextStaging ← Run.read World.sink
  ensureNotCancelled cancellation
  pure ⟨outputPath, outputParent, plaintextStaging, plaintextBytes, originalFilename⟩

end Stage

/-- Measures the machine, where the request asks for it and brings no rate. -/
def resolveCurrentMachineIterationsPerSecond (host : LockHost) (request : LockRequest) :
    Op (Option UInt64) :=
  if request.iterations.isSome then pure none
  else
    match request.hardwareProfile with
    | none => pure none
    | some profileId =>
        if isCurrentMachineProfileId profileId = false then pure none
        else
          match request.currentMachineIterationsPerSecond with
          | some rate => pure (some rate)
          | none => do
              let rate ← Run.read fun world => host.benchmark world.history
              Run.lift (rejectIf (rate = 0)
                (.invalidArgument "machine calibration produced zero iterations"))
              pure (some rate)

section Payload
variable (host : LockHost)

def wrapFileKeyForPasswordProtectedLock (fileKey timelockMask : Block 32) (passphrase : String)
    (params : PasswordProtectionParams) : Except Error (Block 32 × PasswordProtectionMetadata) := do
  validateLockPassphrase passphrase
  let wrappedKey ← wrapFileKeyWithPassword host.crates fileKey timelockMask passphrase params
  pure (wrappedKey, .timelockPlusArgon2idV1 params)

def keyProtectionMaterial (fileKey timelockMask : Block 32) (password : Option String) :
    Op (Block 32 × Option PasswordProtectionMetadata) :=
  match password with
  | some passphrase => do
      let salt ← fillBytes host.toHost defaultPasswordSaltLen
      let params ← Run.lift (PasswordProtectionParams.defaultWithSalt salt.1)
      let (wrappedKey, metadata) ← Run.lift
        (wrapFileKeyForPasswordProtectedLock host fileKey timelockMask passphrase params)
      pure (wrappedKey, some metadata)
  | none => pure (wrapFileKeyWithTimelockMask fileKey timelockMask, none)

def lockArtifactRequest (staged : StagedLockInput) (difficulty : ResolvedLockDifficulty)
    (puzzle : PuzzleService.CreatedTimelockPuzzle) (fileKey wrappedKey : Block 32)
    (passwordProtection : Option PasswordProtectionMetadata) (rsShardBytes : UInt32)
    (createdAtUnixSeconds : UInt64) : LockArtifactRequest where
  notice := none
  originalFilename := staged.originalFilename
  iterations := difficulty.iterations
  modulusBits := puzzle.modulusBits
  hardwareProfile := difficulty.hardwareProfileId
  targetSeconds := difficulty.targetSeconds
  createdAtUnixSeconds := createdAtUnixSeconds
  payloadPlaintextBytes := staged.plaintextBytes
  aeadChunkSizeBytes := defaultLockChunkSizeBytes
  payloadRegionParams := ⟨defaultRsDataShards, defaultRsParityShards, rsShardBytes⟩
  keyBytes := fileKey
  timelockMaterial := ⟨puzzle.modulusN, puzzle.baseA, wrappedKey⟩
  passwordProtection := passwordProtection

variable (onProgress : Bool) (cancellation : Option CancellationToken)

def writePayloadArtifactsWithKey (staged : StagedLockInput) (request : LockRequest)
    (difficulty : ResolvedLockDifficulty) (fileKey : Block 32) : Op Unit := do
  Run.lift (match request.password with
    | some passphrase => validateLockPassphrase passphrase
    | none => .ok ())
  emitProgress onProgress "lock-primes" 0 1
  let puzzle ← PuzzleService.createPuzzleAndDeriveMask host.crates host.draws
    difficulty.iterations request.modulusBits
  let (wrappedKey, passwordProtection) ←
    keyProtectionMaterial host fileKey puzzle.solutionMask request.password
  emitProgress onProgress "lock-puzzle" 1 1
  let protectedStreamLen ← Run.lift
    (predictedProtectedStreamLen staged.plaintextBytes defaultLockChunkSizeBytes)
  let rsShardBytes := chooseRsShardBytesForProtectedStreamLen protectedStreamLen
  newTempIn host.toHost staged.outputParent
  call host.toHost -- the staging file is opened again
  let plaintextReader ← Run.read fun world =>
    host.readBack world.history staged.plaintextStaging
  let createdAtUnixSeconds ← Run.read fun world => host.unixSeconds world.history
  writeTimelockedArtifact host.toHost .tempFile
    (lockArtifactRequest staged difficulty puzzle fileKey wrappedKey passwordProtection
      rsShardBytes createdAtUnixSeconds) plaintextReader onProgress cancellation
  call host.toHost -- the buffered writer is flushed

def writePayloadArtifacts (staged : StagedLockInput) (request : LockRequest)
    (difficulty : ResolvedLockDifficulty) : Op Unit := do
  ensureNotCancelled cancellation
  let fileKey ← fillBytes host.toHost 32
  writePayloadArtifactsWithKey host onProgress cancellation staged request difficulty fileKey

def persistTimelockedContainer (outputPath : Path) : Op Unit := do
  let artifact ← Run.read World.sink
  persist host.toHost outputPath artifact

def verifyOutputIfRequested (verify : Bool) (outputPath : Path) : Op Unit :=
  if verify = false then pure ()
  else do
    let parsed ← parseContainer host.toHost outputPath
    let _ ← verifyTimelockedFileStructuralAndCancel host.toHost outputPath parsed cancellation
    pure ()

/-- The steps up to the finished temporary file. -/
def prepare (request : LockRequest) : Op (StagedLockInput × ResolvedLockDifficulty) := do
  ensureNotCancelled cancellation
  let staged ← resolveAndStageInput host cancellation request.input request.output
  let rate ← resolveCurrentMachineIterationsPerSecond host request
  let difficulty ← Run.lift
    (resolveLockDifficulty request.iterations request.target request.hardwareProfile rate)
  writePayloadArtifacts host onProgress cancellation staged request difficulty
  pure (staged, difficulty)

def executeWithCancel (request : LockRequest) : Op LockResponse := do
  let (staged, difficulty) ← prepare host onProgress cancellation request
  persistTimelockedContainer host staged.outputPath
  verifyOutputIfRequested host cancellation request.verify staged.outputPath
  pure ⟨staged.outputPath, difficulty.iterations, difficulty.hardwareProfileId,
    staged.plaintextBytes⟩

end Payload

end Lock
