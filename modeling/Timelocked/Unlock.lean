import Timelocked.OutputPath
import Timelocked.PuzzleService
import Timelocked.Recovery

/-!
The unlock use case: parse, choose an output path, then recover the payload,
once or, behind a passphrase, in up to three attempts that share one puzzle
solution. A file payload goes to a temporary file that is moved into place at
the very end.
-/
namespace Unlock
open ByteCodec RunRules Base PathText FileTree PasswordProtection Superblock ArtifactReader Recovery
  OutputPath

def maxPasswordAttempts : Nat := 3

structure UnlockRequest where
  input : Path
  outDir : Option Path
  out : Option Path

inductive RecoveredPayload where
  | file (path : Path)
  | text (text : String)
  deriving DecidableEq, Repr

structure UnlockResponse where
  recoveredPayload : RecoveredPayload
  recoveredBytes : Nat
  deriving DecidableEq, Repr

structure PasswordPromptContext where
  input : Path
  attempt : Nat
  maxAttempts : Nat
  previousAttemptFailed : Bool

/-- Whoever answers the prompts, knowing all that happened before. -/
abbrev PasswordProvider := History → PasswordPromptContext → Except Error String

def requestedDir (request : UnlockRequest) : Path :=
  request.outDir.getD ((parent request.input).getD [['.']])

def resolveRecoveredFilePath (request : UnlockRequest) (payloadKind : PayloadKind) :
    Except Error (Option Path) :=
  match payloadKind with
  | .text =>
      if request.out.isSome ∨ request.outDir.isSome then
        .error (.invalidArgument
          "output path options cannot be used when unlocking a text payload")
      else .ok none
  | .file originalFilename =>
      match request.out with
      | some path => .ok (some path)
      | none => .ok (some (join (requestedDir request) (ofText originalFilename)))

def chooseRecoveredFilePath (pathExists : Path → Bool) (request : UnlockRequest)
    (payloadKind : PayloadKind) : Except Error (Option Path) := do
  match ← resolveRecoveredFilePath request payloadKind with
  | none => pure none
  | some path =>
      let available ← resolveAvailableOutputPath pathExists path
      pure (some available)

/-- `str::contains`. -/
def containsText (text part : String) : Bool := decide (part.toList <:+: text.toList)

def isPayloadAuthenticationError : Error → Bool
  | .crypto message => containsText message "payload authentication failed"
  | _ => false

def passwordPayloadAuthenticationError : Error :=
  .crypto "payload authentication failed (wrong password or file is corrupted)"

section Unlock
variable (host : Host) (onProgress : Bool) (cancellation : Option CancellationToken)
  (provider : Option PasswordProvider)

def puzzleOf (request : RecoverFileKeyRequest) : PuzzleService.TimelockPuzzleMaterial where
  modulusN := request.material.modulusN
  baseA := request.material.baseA
  wrappedKey := request.material.wrappedKey
  iterations := request.iterations
  modulusBits := request.modulusBits

def recoverFileKeyFromTimelock (request : RecoverFileKeyRequest) : Op (Block 32) :=
  PuzzleService.unwrapKeyWithCancel host.crates onProgress cancellation (puzzleOf request)

/-- The puzzle's mask, solved at most once in a run. -/
def cachedTimelockMask (request : RecoverFileKeyRequest) : Op (Block 32) := do
  match ← Run.read World.cachedTimelockMask with
  | some mask => pure mask
  | none =>
      let mask ← PuzzleService.solvePuzzleMaskWithCancel host.crates onProgress cancellation
        (puzzleOf request)
      Run.modify fun world => { world with cachedTimelockMask := some mask }
      pure mask

def promptPassphrase (context : PasswordPromptContext) : Op String :=
  match provider with
  | none => Run.fail (.invalidArgument "password required to unlock this file")
  | some answer => do
      let reply ← Run.read fun world => answer world.history context
      emit (.prompt context.attempt context.previousAttemptFailed)
      Run.lift reply

def recoverPasswordProtectedFileKey (metadata : PasswordProtectionMetadata)
    (context : PasswordPromptContext) (request : RecoverFileKeyRequest) : Op (Block 32) := do
  let mask ← cachedTimelockMask host onProgress cancellation request
  let passphrase ← promptPassphrase provider context
  Run.lift (unwrapFileKeyWithPassword host.crates request.material.wrappedKey mask passphrase
    metadata.params)

def recoverPayloadOnce (request : UnlockRequest) (parsed : StoredTimelockedArtifact)
    (payloadKind : PayloadKind) (recoveredFilePath : Option Path)
    (recoverFileKey : RecoverFileKeyFn) : Op UnlockResponse :=
  match payloadKind with
  | .text => do
      let (stats, textBytes) ← capture (recoverPayloadToWriterWithCancel host request.input parsed
        .memory recoverFileKey onProgress cancellation)
      match fromUtf8 textBytes with
      | none => Run.fail (.invalidFormat "recovered text payload is not valid UTF-8")
      | some text => pure ⟨.text text, stats.plaintextBytes⟩
  | .file _ =>
      match recoveredFilePath with
      | none => Run.fail
          (.invalidFormat "missing recovered file path for file payload unlock")
      | some outputPath => do
          let outputParent := (parent outputPath).getD [['.']]
          createDirAll host outputParent
          newTempIn host outputParent
          let stats ← recoverPayloadToWriterWithCancel host request.input parsed .tempFile
            recoverFileKey onProgress cancellation
          call host -- the buffered writer is flushed
          ensureNotCancelled cancellation
          let contents ← Run.read World.sink
          persist host outputPath contents
          pure ⟨.file outputPath, stats.plaintextBytes⟩

def zeroizeMask (world : World) : World := { world with cachedTimelockMask := none }

section Attempts
variable (request : UnlockRequest) (parsed : StoredTimelockedArtifact) (payloadKind : PayloadKind)
  (recoveredFilePath : Option Path) (metadata : PasswordProtectionMetadata)

def attemptOnce (attempt : Nat) (previousAttemptFailed : Bool) : Op UnlockResponse :=
  recoverPayloadOnce host onProgress cancellation request parsed payloadKind recoveredFilePath
    (recoverPasswordProtectedFileKey host onProgress cancellation provider metadata
      ⟨request.input, attempt, maxPasswordAttempts, previousAttemptFailed⟩)

def attempts : Nat → Nat → Bool → Op UnlockResponse
  | 0, _, _ => fun world => (.error passwordPayloadAuthenticationError, zeroizeMask world)
  | left + 1, attempt, previousAttemptFailed => fun world =>
      match attemptOnce host onProgress cancellation provider request parsed payloadKind
        recoveredFilePath metadata attempt previousAttemptFailed world with
      | (.ok response, after) => (.ok response, zeroizeMask after)
      | (.error err, after) =>
          if isPayloadAuthenticationError err then
            if attempt < maxPasswordAttempts then attempts left (attempt + 1) true after
            else (.error passwordPayloadAuthenticationError, zeroizeMask after)
          else (.error err, zeroizeMask after)

end Attempts

def executeWithCancelAndPasswordProvider (request : UnlockRequest) : Op UnlockResponse := do
  ensureNotCancelled cancellation
  let parsed ← parseContainer host request.input
  let payloadKind := parsed.payloadKind
  let tree ← Run.read World.tree
  let recoveredFilePath ← Run.lift
    (chooseRecoveredFilePath (tree.pathExists host.cwd) request payloadKind)
  match parsed.superblock.passwordProtection with
  | none =>
      recoverPayloadOnce host onProgress cancellation request parsed payloadKind recoveredFilePath
        (recoverFileKeyFromTimelock host onProgress cancellation)
  | some metadata => do
      Run.modify zeroizeMask
      attempts host onProgress cancellation provider request parsed payloadKind recoveredFilePath
        metadata maxPasswordAttempts 1 false

end Unlock

end Unlock
